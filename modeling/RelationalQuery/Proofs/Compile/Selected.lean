import RelationalQuery.Proofs.Compile.Joins
import RelationalQuery.Proofs.Compile.Plan

/-!
# Selected ids

A read selects columns of every table occurrence in it, the queried one and those of the relations
that the query's selection reaches. `selectsOwn_idColumn_iff` and `hasId_selectedColumns_iff` say
which of them have the column of the id among these: a selection that names its fields has it only if
one of the fields is the id.

## Shape of the proof

`forall_mem_number` is the induction on the queue of relations that are still to be numbered. With it,
every join is traced back to the selection that asks for it.
-/

namespace RelationalQuery

open Sql

/-- Whether every registered model declares an id. -/
def Schema.DeclaresIds (s : Schema) : Prop := ∀ entry ∈ s.models, entry.2.idField?.isSome = true

instance (s : Schema) : Decidable s.DeclaresIds := inferInstanceAs (Decidable (∀ _ ∈ _, _))

theorem Dict.mem_of_get? {α : Type} {entries : Dict α} {key : String} {value : α}
    (h : entries.get? key = some value) : (key, value) ∈ entries := by
  induction entries with
  | nil => cases h
  | cons entry rest ih =>
    obtain ⟨k, v⟩ := entry
    rw [get?_cons] at h
    split at h
    · next hkey =>
      obtain rfl := Option.some_inj.1 h
      rw [hkey]
      exact List.mem_cons_self
    · exact List.mem_cons_of_mem _ (ih h)

/-- The id column of a model that declares an id is one of its columns. -/
theorem Model.idColumn_mem_columns {m : Model} (h : m.idField?.isSome = true) :
    m.idColumn ∈ m.columns := by
  obtain ⟨f, hf⟩ := Option.isSome_iff_exists.1 h
  have hmem : f ∈ m.fields.map Prod.snd := List.mem_of_find?_eq_some hf
  obtain ⟨entry, hentry, rfl⟩ := List.mem_map.1 hmem
  have hcolumn : m.idColumn = entry.2.column := by rw [idColumn, hf]
  rw [hcolumn]
  exact List.mem_map_of_mem hentry

namespace Compile

/-- The models whose rows a selection reaches, each with what is selected of those rows: the queried
model, and the targets of relations that are selected by a flag or with a selection of their own. -/
inductive Reached (s : Schema) (model : String) (selection : Selection) :
    String → Selection → Prop
  | queried : Reached s model selection model selection
  | flagged {parent name : String} {above : Selection} {relation : Relation}
    (reached : Reached s model selection parent above)
    (flagged : (name, .flag true) ∈ above.fields)
    (resolved : s.relation? parent name = some relation) :
    Reached s model selection relation.target {}
  | nested {parent name : String} {above below : Selection} {relation : Relation}
    {arguments : Arguments} (reached : Reached s model selection parent above)
    (nested : (name, .nested arguments below) ∈ above.fields)
    (resolved : s.relation? parent name = some relation) :
    Reached s model selection relation.target below

/-- Whether the columns of a joined table are known and have a column among them. -/
def HasColumn (columns : Option (List String)) (column : String) : Prop :=
  ∃ known, columns = some known ∧ column ∈ known

/-- Whether a selection asks for the id of related rows: together with all columns of a registered
model, by naming no column at all, or by naming a field that is stored in the id column. -/
def AsksForId (s : Schema) (model : String) (selection : Selection) : Prop :=
  if selection.scalars then s.isRegistered model = true
  else
    (∀ field ∈ selection.flagged, (s.relation? model field).isSome) ∨
      ∃ field ∈ selection.flagged, s.relation? model field = none ∧
        s.columnOf model field = s.idColumn model

variable {s : Schema} {model : String} {selection : Selection} {c : Context} {q : Query}

/-- The id column is selected of related rows if and only if the selection asks for it. -/
theorem hasId_selectedColumns_iff (hids : s.DeclaresIds) :
    HasColumn (selectedColumns s model selection) (s.idColumn model) ↔
      AsksForId s model selection := by
  rw [selectedColumns, AsksForId]
  split
  · rw [Schema.isRegistered, Schema.idColumn]
    cases hm : s.model? model with
    | none => simp [HasColumn]
    | some m =>
      have hcolumn := Model.idColumn_mem_columns (hids _ (Dict.mem_of_get? hm))
      have hfields : m.fields.isEmpty = false := by
        rw [List.isEmpty_eq_false_iff]
        intro hnone
        rw [Model.columns, hnone] at hcolumn
        cases hcolumn
      simp [HasColumn, hfields, hcolumn]
  · have hempty : (selection.flagged.filter fun field => (s.relation? model field).isNone) = [] ↔
        ∀ field ∈ selection.flagged, (s.relation? model field).isSome := by
      simp [List.filter_eq_nil_iff, Option.isSome_iff_ne_none]
    dsimp only
    split
    · next h =>
      refine iff_of_true ⟨_, rfl, List.mem_singleton.2 rfl⟩ (Or.inl ?_)
      exact hempty.1 (List.isEmpty_iff.1 h)
    · next h =>
      have hnot := mt hempty.2 (mt List.isEmpty_iff.2 h)
      simp [HasColumn, hnot, and_assoc]

/-! ## Joins and the selections that ask for them -/

/-- Whether a tree is that of a relation which is asked for of the rows that a selection reaches. -/
inductive Grown (s : Schema) (model : String) (selection : Selection) : IncludeTree → Prop
  | intro {name : String} {relation : Relation} {filter : Option Filter} {below : Selection}
    (reached : Reached s model selection relation.target below) :
    Grown s model selection
      (.node name relation filter (selectedColumns s relation.target below)
        (forest s relation.target below))

/-- What a selection asks for, field by field. -/
theorem forest_eq (s : Schema) (model : String) (selection : Selection) :
    forest s model selection = selection.fields.flatMap fun entry =>
      (s.relation? model entry.1).elim [] fun relation =>
        treeOfField s entry.1 relation entry.2 := by
  obtain ⟨scalars, composites, fields⟩ := selection
  rw [forest]
  induction fields with
  | nil => rw [forestOfFields, List.flatMap_nil]
  | cons entry rest ih =>
    rw [forestOfFields, List.flatMap_cons]
    split
    · next hnone => rw [hnone, ih, Option.elim_none, List.nil_append]
    · next relation hrelation => rw [hrelation, ih, Option.elim_some]

/-- The trees that a selection asks for are those of its fields that are relations. -/
theorem mem_forest_iff {parent : String} {above : Selection} {tree : IncludeTree} :
    tree ∈ forest s parent above ↔ ∃ name field relation, (name, field) ∈ above.fields ∧
      s.relation? parent name = some relation ∧ tree ∈ treeOfField s name relation field := by
  rw [forest_eq, List.mem_flatMap]
  constructor
  · rintro ⟨⟨name, field⟩, hmem, htree⟩
    cases hrelation : s.relation? parent name with
    | none =>
      rw [hrelation] at htree
      exact absurd htree List.not_mem_nil
    | some relation =>
      rw [hrelation] at htree
      exact ⟨name, field, relation, hmem, hrelation, htree⟩
  · rintro ⟨name, field, relation, hmem, hrelation, htree⟩
    refine ⟨(name, field), hmem, ?_⟩
    rw [hrelation]
    exact htree

/-- What a selection asks for is grown from it. -/
theorem grown_of_mem_forest {parent : String} {above : Selection}
    (hreached : Reached s model selection parent above) :
    ∀ tree ∈ forest s parent above, Grown s model selection tree := by
  intro tree htree
  obtain ⟨name, field, relation, hmem, hrelation, htree⟩ := mem_forest_iff.mp htree
  cases field with
  | flag on =>
    cases on with
    | false =>
      rw [treeOfField] at htree
      exact absurd htree List.not_mem_nil
    | true =>
      rw [treeOfField] at htree
      obtain rfl := List.mem_singleton.mp htree
      have hbelow : Reached s model selection relation.target {} :=
        .flagged hreached hmem hrelation
      exact .intro hbelow
  | nested arguments below =>
    rw [treeOfField] at htree
    obtain rfl := List.mem_singleton.mp htree
    exact .intro (.nested hreached hmem hrelation)

/-- The relations below a tree are grown as the tree is. -/
theorem Grown.children {tree : IncludeTree} (h : Grown s model selection tree) :
    ∀ child ∈ tree.children, Grown s model selection child := by
  obtain ⟨hreached⟩ := h
  exact grown_of_mem_forest hreached

/-- What holds of the joins of all trees that a property spreads to holds of all numbered joins. -/
theorem forall_mem_number {P : PlannedJoin → Prop} {Q : IncludeTree → Prop}
    (hjoin : ∀ n parent tree, Q tree → P (.ofTree c n parent tree))
    (hchildren : ∀ tree, Q tree → ∀ child ∈ tree.children, Q child) (next : Nat)
    (queue : List (Occurrence × IncludeTree)) (hqueue : ∀ entry ∈ queue, Q entry.2) :
    ∀ join ∈ number c next queue, P join := by
  induction next, queue using number.induct c with
  | case1 next =>
    rw [number]
    exact fun _ h => absurd h List.not_mem_nil
  | case2 next parent tree queue join ih =>
    obtain ⟨htree, hqueue⟩ := List.forall_mem_cons.1 hqueue
    rw [number]
    refine List.forall_mem_cons.2 ⟨hjoin next parent tree htree, ih ?_⟩
    refine List.forall_mem_append.2 ⟨hqueue, ?_⟩
    intro entry hentry
    obtain ⟨child, hchild, rfl⟩ := List.mem_map.1 hentry
    exact hchildren tree htree child hchild

/-- A join under a number, which selects what is selected of the rows that a selection reaches. -/
structure Traced (s : Schema) (model : String) (selection : Selection) (join : PlannedJoin) :
    Prop where
  aliasName : join.inclusion.aliasName = tableAlias join.number
  row : join.row.name = tableAlias join.number
  columns : ∃ below, Reached s model selection join.row.model below ∧
    join.inclusion.columns = selectedColumns s join.row.model below

/-- The joins of a read are traced to its selection. -/
theorem traced_of_planJoins {base : Occurrence} {joins : List PlannedJoin}
    (h : planJoins c base selection = .ok joins) :
    ∀ join ∈ joins, Traced c.schema base.model selection join := by
  obtain rfl := eq_number_of_planJoins h
  refine forall_mem_number (Q := Grown c.schema base.model selection) ?_ (fun _ => Grown.children)
    1 _ ?_
  · rintro n parent _ ⟨hreached⟩
    exact ⟨rfl, rfl, _, hreached, rfl⟩
  · intro entry hentry
    obtain ⟨tree, htree, rfl⟩ := List.mem_map.1 hentry
    exact grown_of_mem_forest .queried tree htree

/-! ## The queried table -/

/-- Whether a read selects a column of the queried table, by name or with all others. -/
def SelectsOwn (r : Read) (column : String) : Prop :=
  .everythingOf baseAlias ∈ r.select.items ∨ .column ⟨some baseAlias, column⟩ ∈ r.select.items

/-- Whether a query asks for the id of the queried rows: together with all columns, or by naming a
field that is stored in the id column. -/
def AsksForOwnId (s : Schema) (q : Query) : Prop :=
  ∀ fields, baseFields s q = some fields →
    ∃ field ∈ fields, s.columnOf q.model field = s.idColumn q.model

/-- The parts of a read that finds rows, whether it has a page or not. -/
theorem exists_of_planFind {r : Read} (h : planFind c q = .ok r) :
    ∃ joins computed joined, FindParts c q joins computed joined ∧
      r.select.items = findItems c q joins computed ∧ r.computed = q.arguments.computed.keys ∧
      r.inclusions = joins.map (·.inclusion) := by
  cases found_of_planFind h with
  | paged parts page_planned => exact ⟨_, _, _, parts, rfl, rfl, rfl⟩
  | direct parts clause_planned => exact ⟨_, _, _, parts, rfl, rfl, rfl⟩

/-- The queried table of a read with joins goes by its alias. -/
theorem findBase_of_joins {joins : List PlannedJoin} (hjoins : joins ≠ [])
    (h : planJoins c (findBase c q) (q.selection.getD {}) = .ok joins) :
    findBase c q = .aliased c q.model baseAlias := by
  rcases findBase_cases c q with hbase | ⟨-, hforest⟩
  · exact hbase
  · have hnone := eq_number_of_planJoins h
    rw [model_findBase, hforest, List.map_nil, number] at hnone
    exact absurd hnone hjoins

/-- Related rows are selected in columns with aliases, or all together under the name of their own
table. -/
theorem notMem_joinedItems {base : Occurrence} {joins : List PlannedJoin}
    (h : planJoins c base selection = .ok joins) {join : PlannedJoin} (hjoin : join ∈ joins) :
    .everythingOf baseAlias ∉ joinedItems join ∧ ∀ column, .column column ∉ joinedItems join := by
  have hname : join.row.name ≠ baseAlias := by
    obtain rfl := eq_number_of_planJoins h
    intro heq
    have hnodup := nodup_visible (c := c)
      ((forest c.schema base.model selection).map fun tree => (base, tree))
    refine (List.nodup_cons.1 hnodup).1 (List.mem_flatMap.2 ⟨join, hjoin, ?_⟩)
    rw [PlannedJoin.names, ← heq]
    split
    · exact List.mem_cons_of_mem _ (List.mem_singleton.2 rfl)
    · exact List.mem_singleton.2 rfl
  rw [joinedItems]
  split
  · simp
  · simp [hname.symm]

/-- A computed field is selected as a value of its own. -/
theorem exists_scalar_of_planComputed {base : Occurrence} {aliasName : String}
    {field : ComputedField} {item : Item} (h : planComputed c base aliasName field = .ok item) :
    ∃ query, item = .scalar query aliasName := by
  rw [planComputed, bind_eq_ok_iff] at h
  obtain ⟨-, -, h⟩ := h
  dsimp only at h
  split at h
  · exact ⟨_, (Except.ok.inj h).symm⟩
  · exact ⟨_, (Except.ok.inj h).symm⟩
  · cases h

/-- The columns of the queried table are selected by its own items alone. -/
theorem selectsOwn_iff_baseItems {r : Read} (h : planFind c q = .ok r) {column : String} :
    SelectsOwn r column ↔ .everythingOf baseAlias ∈ baseItems c (findBase c q) q ∨
      .column ⟨some baseAlias, column⟩ ∈ baseItems c (findBase c q) q := by
  obtain ⟨joins, computed, joined, parts, hitems, -⟩ := exists_of_planFind h
  have hjoined : .everythingOf baseAlias ∉ joins.flatMap joinedItems ∧
      ∀ column, .column column ∉ joins.flatMap joinedItems := by
    simp only [List.mem_flatMap, not_exists, not_and]
    exact ⟨fun join hjoin => (notMem_joinedItems parts.planned hjoin).1,
      fun column join hjoin => (notMem_joinedItems parts.planned hjoin).2 column⟩
  have hcomputed : .everythingOf baseAlias ∉ computed ∧ ∀ column, .column column ∉ computed := by
    have hscalar : ∀ item ∈ computed, ∃ query aliasName, item = .scalar query aliasName := by
      intro item hitem
      obtain ⟨field, -, hfield⟩ := exists_of_mem_mapM parts.fields hitem
      obtain ⟨query, hquery⟩ := exists_scalar_of_planComputed hfield
      exact ⟨query, _, hquery⟩
    constructor
    · intro hmem
      obtain ⟨query, aliasName, heq⟩ := hscalar _ hmem
      cases heq
    · intro column hmem
      obtain ⟨query, aliasName, heq⟩ := hscalar _ hmem
      cases heq
  rw [SelectsOwn, hitems, findItems]
  simp only [List.mem_append, hjoined, hcomputed, or_false]

/-- The id column of the queried table is selected if and only if the query asks for it. -/
theorem selectsOwn_idColumn_iff {r : Read} (h : planFind c q = .ok r)
    (hinclusions : r.inclusions ≠ []) :
    SelectsOwn r (c.schema.idColumn q.model) ↔ AsksForOwnId c.schema q := by
  obtain ⟨joins, computed, joined, parts, -, -, hjoins⟩ := exists_of_planFind h
  have hbase : findBase c q = .aliased c q.model baseAlias := by
    refine findBase_of_joins ?_ parts.planned
    rintro rfl
    exact hinclusions hjoins
  rw [selectsOwn_iff_baseItems h, hbase, baseItems, AsksForOwnId]
  cases hfields : baseFields c.schema q with
  | none => simp [Occurrence.aliased]
  | some fields => simp [Occurrence.field, Occurrence.own, Occurrence.aliased]

end Compile

end RelationalQuery
