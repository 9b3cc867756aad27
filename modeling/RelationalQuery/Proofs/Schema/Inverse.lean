import RelationalQuery.Schema.Basic

/-!
# Inverse relations

Two models may each declare a relation to the other one, which are the two sides of one relation.
`Schema.Inverse` says when they are. Each side works out for itself which columns its rows are tied
by; `Inverse.link_eq_swap` says that the sides come to the same columns.

## Shape of the proof

Whether a side holds the key is decided by conditions on the two models. For the other side all of
them are turned around, and the names of different models are never in the same order both ways.
-/

namespace RelationalQuery

/-! ## Declarations -/

/-- Whether two relations go by the same key. -/
structure Relation.SharesKey (r r' : Relation) : Prop where
  foreignKey : r.foreignKey = r'.foreignKey
  references : r.references = r'.references

/-- Whether two relations are declared as the two sides of one. Join columns that neither side names
mirror each other. -/
inductive Relation.Mirrors (r r' : Relation) : Prop
  | toMany (left : r.cardinality = .oneToMany) (right : r'.cardinality = .manyToOne)
    (key : r.SharesKey r')
  | toOne (left : r.cardinality = .manyToOne) (right : r'.cardinality = .oneToMany)
    (key : r.SharesKey r')
  | oneToOne (left : r.cardinality = .oneToOne) (right : r'.cardinality = .oneToOne)
    (left_unflagged : r.holdsKey = none) (right_unflagged : r'.holdsKey = none)
    (key : r.SharesKey r')
  | manyToMany (left : r.cardinality = .manyToMany) (right : r'.cardinality = .manyToMany)
    (table : r.joinTable = r'.joinTable) (column : r.joinColumn = r'.inverseJoinColumn)
    (inverse : r.inverseJoinColumn = r'.joinColumn)

/-- Whether two different models of a schema have relations to each other that are the two sides of
one. -/
structure Schema.Inverse (s : Schema) (a b : String) (r r' : Relation) : Prop where
  ne : a ≠ b
  left : ∃ field, s.relation? a field = some r
  right : ∃ field, s.relation? b field = some r'
  left_target : r.target = b
  right_target : r'.target = a
  mirrors : r.Mirrors r'

/-- The link that is seen from the other side. -/
def Link.swap : Link → Link
  | direct own target => direct target own
  | junction table ownId ownColumn targetColumn targetId =>
    junction table targetId targetColumn ownColumn ownId

variable {s : Schema} {a b : String} {r r' : Relation}

theorem Relation.SharesKey.symm (h : r.SharesKey r') : r'.SharesKey r :=
  ⟨h.foreignKey.symm, h.references.symm⟩

theorem Relation.Mirrors.symm (h : r.Mirrors r') : r'.Mirrors r := by
  cases h with
  | toMany left right key => exact .toOne right left key.symm
  | toOne left right key => exact .toMany right left key.symm
  | oneToOne left right left_unflagged right_unflagged key =>
    exact .oneToOne right left right_unflagged left_unflagged key.symm
  | manyToMany left right table column inverse =>
    exact .manyToMany right left table.symm inverse.symm column.symm

/-- Both sides have a join table, or neither has. -/
theorem Relation.Mirrors.isManyToMany_eq (h : r.Mirrors r') : r'.isManyToMany = r.isManyToMany := by
  cases h with
  | toMany left right key => rw [isManyToMany, isManyToMany, left, right]; rfl
  | toOne left right key => rw [isManyToMany, isManyToMany, left, right]; rfl
  | oneToOne left right left_unflagged right_unflagged key =>
    rw [isManyToMany, isManyToMany, left, right]
  | manyToMany left right table column inverse => rw [isManyToMany, isManyToMany, left, right]

/-- Without a join table both sides go by the same key. -/
theorem Relation.Mirrors.sharesKey (h : r.Mirrors r') (hmany : r.isManyToMany = false) :
    r.SharesKey r' := by
  cases h with
  | toMany left right key => exact key
  | toOne left right key => exact key
  | oneToOne left right left_unflagged right_unflagged key => exact key
  | manyToMany left right table column inverse =>
    rw [isManyToMany, left] at hmany
    cases hmany

/-- Many to many, both sides have the same join table, with columns that mirror each other. -/
theorem Relation.Mirrors.sharesTable (h : r.Mirrors r') (hmany : r.isManyToMany = true) :
    r.joinTable = r'.joinTable ∧ r.joinColumn = r'.inverseJoinColumn ∧
      r.inverseJoinColumn = r'.joinColumn := by
  cases h with
  | manyToMany left right table column inverse => exact ⟨table, column, inverse⟩
  | toMany left right key | toOne left right key
  | oneToOne left right left_unflagged right_unflagged key =>
    rw [isManyToMany, left] at hmany
    cases hmany

namespace Schema.Inverse

theorem symm (h : s.Inverse a b r r') : s.Inverse b a r' r :=
  ⟨h.ne.symm, h.right, h.left, h.right_target, h.left_target, h.mirrors.symm⟩

/-! ## Keys -/

/-- Of two different names exactly one sorts first. -/
theorem decide_lt_eq_not {x y : String} (h : x ≠ y) : decide (x < y) = !decide (y < x) := by
  by_cases hlt : x < y
  · simp [hlt, String.lt_asymm hlt]
  · have hgt : y < x := Decidable.byContradiction fun hle => h (String.le_antisymm hle hlt)
    simp [hlt, hgt]

/-- Of two different models exactly one holds the key that neither says to hold. -/
theorem holdsOneToOneKey_eq_not (h : s.Inverse a b r r') (key : r.SharesKey r') :
    s.holdsOneToOneKey b r' = !s.holdsOneToOneKey a r := by
  have hkey (model : String) : s.hasKey r' model = s.hasKey r model := by
    rw [hasKey, hasKey, key.foreignKey]
  rw [holdsOneToOneKey, holdsOneToOneKey, hkey, hkey, h.left_target, h.right_target,
    ← key.foreignKey, if_neg h.ne, if_neg h.ne.symm]
  -- the conditions come in pairs, which the other side reads in the opposite order
  by_cases hown : s.hasKey r a = s.hasKey r b
  · by_cases haway : namedAfter r.foreignKey b = namedAfter r.foreignKey a
    · simp only [hown, haway, ne_eq, not_true_eq_false, if_false, decide_lt_eq_not h.ne]
    · have hback : namedAfter r.foreignKey a = !namedAfter r.foreignKey b :=
        Bool.eq_not.mpr (Ne.symm haway)
      simp [hown, hback]
  · have hother : s.hasKey r b = !s.hasKey r a := Bool.eq_not.mpr (Ne.symm hown)
    simp [hother]

/-- Of the two sides of a relation without a join table exactly one holds the key. -/
theorem holdsForeignKey_eq_not (h : s.Inverse a b r r') (hmany : r.isManyToMany = false) :
    s.holdsForeignKey b r' = !s.holdsForeignKey a r := by
  cases h.mirrors with
  | toMany left right key => rw [holdsForeignKey, holdsForeignKey, left, right]; rfl
  | toOne left right key => rw [holdsForeignKey, holdsForeignKey, left, right]; rfl
  | oneToOne left right left_unflagged right_unflagged key =>
    rw [holdsForeignKey, holdsForeignKey, left, right, left_unflagged, right_unflagged]
    exact h.holdsOneToOneKey_eq_not key
  | manyToMany left right table column inverse =>
    rw [Relation.isManyToMany, left] at hmany
    cases hmany

/-! ## Join tables -/

/-- Both sides have the same two columns in the join table. -/
theorem joinColumns_eq (h : s.Inverse a b r r') (hmany : r.isManyToMany = true) :
    r'.ownJoinColumn b = r.targetJoinColumn a ∧ r'.targetJoinColumn b = r.ownJoinColumn a := by
  obtain ⟨-, column, inverse⟩ := h.mirrors.sharesTable hmany
  rw [Relation.ownJoinColumn, Relation.targetJoinColumn, Relation.ownJoinColumn,
    Relation.targetJoinColumn, h.left_target, h.right_target, column, inverse]
  by_cases hle : a ≤ b
  · have hnot : ¬ b ≤ a := fun hge => h.ne (String.le_antisymm hle hge)
    simp [hle, hnot]
  · have hge : b ≤ a := (String.le_total a b).resolve_left hle
    simp [hle, hge]

/-! ## Links -/

/-- Both sides are tied by the same columns, each from its own side. -/
theorem link_eq_swap (h : s.Inverse a b r r') : s.link b r' = (s.link a r).swap := by
  rw [link, link, h.mirrors.isManyToMany_eq, h.left_target, h.right_target]
  cases hmany : r.isManyToMany with
  | true =>
    obtain ⟨table, -, -⟩ := h.mirrors.sharesTable hmany
    obtain ⟨hown, htarget⟩ := h.joinColumns_eq hmany
    rw [if_pos rfl, if_pos rfl, hown, htarget, table]
    rfl
  | false =>
    have hkey := h.mirrors.sharesKey hmany
    rw [h.holdsForeignKey_eq_not hmany, hkey.foreignKey, hkey.references]
    cases s.holdsForeignKey a r <;> rfl

end Schema.Inverse

end RelationalQuery
