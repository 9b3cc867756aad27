import RelationalQuery.Proofs.Compile.Connected
import RelationalQuery.Proofs.Compile.Ties
import RelationalQuery.Proofs.Schema.Inverse

/-!
# Both sides of a relation

Two models with inverse relations are tied by the same columns from both sides, whether a filter asks
for related rows, a read joins them, or a mutation connects them. `exists_agree` says so, with one
exception: a subquery is ambiguous where its join table is named like the alias of its target.

## Shape of the proof

`Ties` has what subqueries and joins are tied by, as a matter of the link. The links of both sides are
the same, seen from different sides. What is left to show is which rows of a join table are written.
-/

namespace RelationalQuery

open Sql

/-! ## Rows of join tables -/

/-- The row of a join table for a row with an id and a related row, where the model that declares the
relation is that of the first one. -/
def Relation.junctionRow (r : Relation) (model : String) (id target : Value) : Assignments :=
  [(r.ownJoinColumn model, id), (r.targetJoinColumn model, target)]

/-- The id that a reference stands for. Ids are looked up by another column with `find`. -/
def Sql.Reference.read (find : String → String → String → Value → Value) : Reference → Value
  | value v => v
  | lookup idColumn table column v => find idColumn table column v

/-- The row of a join table that a write inserts or deletes, with the name of the table. -/
def Sql.Write.junctionRow? (find : String → String → String → Value → Value) :
    Write → Option (String × Assignments)
  | connect table own other id target => some (table, [(own, id), (other, target.read find)])
  | disconnect table own other id target => some (table, [(own, id), (other, target.read find)])
  | _ => none

/-- The value of a column, where a row of a join table is given, a row of a model, and a row of another
model. -/
def Spot.value (model : String) (row other link : StoredRow) (spot : Spot) : Value :=
  match spot.model with
  | none => link spot.column
  | some name => if name = model then row spot.column else other spot.column

/-- Whether pairs of columns have the same values. -/
def Meets (pairs : Multiset (Sym2 Spot)) (value : Spot → Value) : Prop :=
  ∀ x y, s(x, y) ∈ pairs → value x = value y

namespace Compile

variable {c : Context} {a b : String} {r r' : Relation} {pairs : Multiset (Sym2 Spot)}

/-! ## Paths -/

/-- The subqueries that relation filters on the rows of a model are compiled to: the tables in sight of
each, its equations, and its own tables. -/
inductive FilterPath (c : Context) (model : String) (r : Relation) :
    List (List Seat) → List (Column × Column) → Source → Prop
  | intro {scope : Scope} {used after : List String} {scopes : List (List Seat)} {key : String}
    {quantifier : Quantifier} {nested : Filter} {negated : Bool} {source : Source}
    {left right : Column} {inner : Clause} (standing : Standing c scope used scopes)
    (row : scope.row.model = model) (declared : c.schema.relation? model key = some r)
    (compiled : criterionConditions c scope key (.related quantifier nested) used =
      .ok ([.subquery negated source left right inner], after)) :
    FilterPath c model r (source.seats r.target :: scopes) (source.equations ++ [(left, right)])
      source

/-- The joins to the rows of a model in reads: the tables in sight of each, and its equations. -/
inductive JoinPath (c : Context) (model : String) (r : Relation) :
    List (List Seat) → List (Column × Column) → Prop
  | intro {q : Query} {joins : List PlannedJoin} {computed : List Item} {joined : List Join}
    {join : PlannedJoin} {visible : List String} {rendered : Join}
    (parts : FindParts c q joins computed joined) (mem : join ∈ joins)
    (row : join.parent.model = model) (declared : join.relation = r)
    (compiled : renderJoin c visible join = .ok rendered) :
    JoinPath c model r [findSeats c q joins] (rendered.steps.map Prod.snd)

/-- The writes to join tables, for a row of a model with an id and a related row. -/
def ConnectPath (c : Context) (find : String → String → String → Value → Value) (model : String)
    (r : Relation) (id target : Value) (w : Write) : Prop :=
  ∃ change : Change, change.WrittenBy c model id w ∧
    c.schema.relation? model change.field = some r ∧
    (targetReference c r.target change.target).read find = target

/-- Whether rows of two models with relations to each other are tied by the given pairs of columns,
from both sides and on all paths. -/
structure Agree (c : Context) (a b : String) (r r' : Relation) (pairs : Multiset (Sym2 Spot)) :
    Prop where
  /-- A subquery is tied by the pairs, unless two of its tables share a name. -/
  filters : ∀ scopes equations source,
    FilterPath c a r scopes equations source ∨ FilterPath c b r' scopes equations source →
    ties scopes equations = if source.names.Nodup then some pairs else none
  /-- They do so only where the join table is named like an alias that is drawn for the target. -/
  clash : ∀ scopes equations source,
    FilterPath c a r scopes equations source ∨ FilterPath c b r' scopes equations source →
    ¬ source.names.Nodup → ∃ key used, r.joinTable = some (targetAlias used key)
  joins : ∀ scopes equations, JoinPath c a r scopes equations ∨ JoinPath c b r' scopes equations →
    ties scopes equations = some pairs
  /-- Exactly one side of a relation without a join table holds the key. -/
  key : r.isManyToMany = false → c.schema.holdsForeignKey b r' = !c.schema.holdsForeignKey a r
  /-- Both sides write the same rows to a join table, with the ids of the rows that they connect: those
  rows of it that meet the pairs. -/
  connects : ∀ find x y w w', ConnectPath c find a r x y w → ConnectPath c find b r' y x w' →
    ∃ table row row', w.junctionRow? find = some (table, row) ∧
      w'.junctionRow? find = some (table, row') ∧ row.Perm row' ∧
      pairs = {s(⟨none, table, r.ownJoinColumn a⟩,
          ⟨some a, c.schema.tableOf a, c.schema.idColumn a⟩),
        s(⟨none, table, r.targetJoinColumn a⟩,
          ⟨some b, c.schema.tableOf b, c.schema.idColumn b⟩)} ∧
      ∀ first second link : StoredRow, first (c.schema.idColumn a) = x →
        second (c.schema.idColumn b) = y →
        (Meets pairs (Spot.value a first second link) ↔
          ∀ assigned ∈ row, link assigned.1 = assigned.2)

/-! ## Agreement -/

/-- Both sides are tied by the same pairs of columns. -/
theorem ties_eq_of_inverse (h : c.schema.Inverse a b r r') :
    c.schema.ties b r' = c.schema.ties a r := by
  rw [Schema.ties, Schema.ties, h.link_eq_swap, h.left_target, h.right_target, Link.ties_swap]

/-- The subqueries of a model's relation are tied by its pairs of columns, unless two of their tables
share a name. -/
theorem ties_of_filterPath {scopes : List (List Seat)} {equations : List (Column × Column)}
    {source : Source} (h : FilterPath c a r scopes equations source) :
    (c.schema.ties a r).isSome ∧
      ties scopes equations = if source.names.Nodup then c.schema.ties a r else none := by
  cases h with
  | intro standing row declared compiled =>
    subst row
    obtain ⟨hsome, _, _, _, _, _, hclause, hties⟩ :=
      ties_of_criterionConditions standing declared compiled
    obtain ⟨-, rfl, rfl, rfl, -⟩ := Condition.subquery.inj (List.singleton_inj.mp hclause)
    exact ⟨hsome, hties⟩

/-- Two tables of a subquery share a name only where the join table is not in sight, and is named like
the alias that is drawn for the target. -/
theorem joinTable_of_entered {scope : Scope} {key : String} {used after : List String}
    {entry : Entry} (h : Entered c scope key r used entry after)
    (hnames : ¬ entry.source.names.Nodup) :
    r.isManyToMany ∧ r.joinTable = some (targetAlias used key) := by
  cases h with
  | linkedAliased link seen =>
    -- the alias of the join table is drawn after that of the target
    have hfresh : joinTableAlias used key ≠ targetAlias used key := fun heq =>
      freshName_notMem (targetAlias used key :: used) _ (List.mem_cons.mpr (.inl heq))
    have hnotMem : joinTableAlias used key ∉ [targetAlias used key] := fun hmem =>
      hfresh (List.mem_singleton.mp hmem)
    exact absurd (List.nodup_cons.mpr ⟨hnotMem, List.nodup_singleton _⟩) hnames
  | @linked table ownId ownColumn targetColumn targetId link unseen =>
    have hsame : table = targetAlias used key := by
      simpa [Entry.linked, Source.names, Table.reference, Occurrence.aliased] using hnames
    obtain ⟨hmany, htable⟩ := joinTable_of_junction link
    exact ⟨hmany, htable.trans (congrArg some hsame)⟩
  | singleAliased link seen => exact absurd (List.nodup_singleton _) hnames
  | single link outermost unseen => exact absurd (List.nodup_singleton _) hnames

/-- Two tables of a subquery on the path of a filter share a name only where the join table is named
like an alias that is drawn for the target. -/
theorem joinTable_of_filterPath {scopes : List (List Seat)} {equations : List (Column × Column)}
    {source : Source} (h : FilterPath c a r scopes equations source)
    (hnames : ¬ source.names.Nodup) :
    r.isManyToMany ∧ ∃ key used, r.joinTable = some (targetAlias used key) := by
  cases h with
  | @intro scope used after scopes key quantifier nested negated source left right inner standing row
      declared compiled =>
    subst row
    obtain ⟨found, entry, between, inner, hquantifiable, -, henter, -, hclause⟩ :=
      related_eq_ok compiled
    obtain rfl : found = r :=
      Option.some.inj ((relation?_of_quantifiable hquantifiable).symm.trans declared)
    have hsource : source = entry.source := by
      cases quantifier <;>
        exact (Condition.subquery.inj (List.singleton_inj.mp hclause)).2.1
    obtain ⟨hmany, htable⟩ := joinTable_of_entered (entered_of_enter henter) (hsource ▸ hnames)
    exact ⟨hmany, key, used, htable⟩

/-- The joins of a model's relation are tied by its pairs of columns. -/
theorem ties_of_joinPath {scopes : List (List Seat)} {equations : List (Column × Column)}
    (h : JoinPath c a r scopes equations) :
    (c.schema.ties a r).isSome ∧ ties scopes equations = c.schema.ties a r := by
  cases h with
  | intro parts mem row declared compiled =>
    subst row declared
    exact ties_of_join parts mem compiled

/-- The row that is written to the join table of a model's relation. -/
theorem junctionRow?_of_connectPath {find : String → String → String → Value → Value}
    {id target : Value} {w : Write} (h : ConnectPath c find a r id target w) :
    ∃ table, r.isManyToMany ∧ r.joinTable = some table ∧
      w.junctionRow? find = some (table, r.junctionRow a id target) := by
  obtain ⟨change, ⟨relation, table, hrelation, hmany, htable, rfl⟩, hdeclared, rfl⟩ := h
  obtain rfl : relation = r := Option.some.inj (hrelation.symm.trans hdeclared)
  refine ⟨table, hmany, htable, ?_⟩
  rw [Change.write]
  split <;> rfl

/-- The pairs of columns over a join table: each of its columns goes with one id. -/
theorem ties_of_isManyToMany (hmany : r.isManyToMany) {table : String}
    (htable : r.joinTable = some table) : c.schema.ties a r =
      some {s(⟨none, table, r.ownJoinColumn a⟩, ⟨some a, c.schema.tableOf a, c.schema.idColumn a⟩),
        s(⟨none, table, r.targetJoinColumn a⟩,
          ⟨some r.target, c.schema.tableOf r.target, c.schema.idColumn r.target⟩)} := by
  rw [Schema.ties, Schema.link, if_pos hmany, htable, Link.ties]

/-- Two pairs of columns have the same values if each has. -/
theorem meets_pair {p q p' q' : Spot} {value : Spot → Value} :
    Meets {s(p, q), s(p', q')} value ↔ value p = value q ∧ value p' = value q' := by
  refine ⟨fun h => ⟨h p q (by simp), h p' q' (by simp)⟩, fun ⟨h, h'⟩ x y hmem => ?_⟩
  rcases Multiset.mem_cons.mp hmem with heq | hmem
  · rcases Sym2.eq_iff.mp heq with ⟨rfl, rfl⟩ | ⟨rfl, rfl⟩
    · exact h
    · exact h.symm
  · rcases Sym2.eq_iff.mp (Multiset.mem_singleton.mp hmem) with ⟨rfl, rfl⟩ | ⟨rfl, rfl⟩
    · exact h'
    · exact h'.symm

/-- The rows of a join table that meet the pairs for two rows are those that hold their ids. -/
theorem meets_iff_junctionRow (hne : a ≠ b) {table : String} {first second link : StoredRow} :
    Meets {s(⟨none, table, r.ownJoinColumn a⟩, ⟨some a, c.schema.tableOf a, c.schema.idColumn a⟩),
        s(⟨none, table, r.targetJoinColumn a⟩,
          ⟨some b, c.schema.tableOf b, c.schema.idColumn b⟩)} (Spot.value a first second link) ↔
      ∀ assigned ∈ r.junctionRow a (first (c.schema.idColumn a)) (second (c.schema.idColumn b)),
        link assigned.1 = assigned.2 := by
  have hother : (if b = a then first (c.schema.idColumn b) else second (c.schema.idColumn b)) =
      second (c.schema.idColumn b) := if_neg hne.symm
  rw [meets_pair, Relation.junctionRow]
  simp [Spot.value, hother]

/-- Inverse relations tie the rows of their models by the same pairs of columns, from both sides and on
all paths. -/
theorem exists_agree (h : c.schema.Inverse a b r r') : ∃ pairs, Agree c a b r r' pairs := by
  have hsides := ties_eq_of_inverse h
  have hpairs (hsome : (c.schema.ties a r).isSome) :
      c.schema.ties a r = some ((c.schema.ties a r).getD 0) := by
    obtain ⟨pairs, heq⟩ := Option.isSome_iff_exists.mp hsome
    rw [heq, Option.getD_some]
  refine ⟨(c.schema.ties a r).getD 0, ?_, ?_, ?_, ?_, ?_⟩
  · intro scopes equations source hpath
    have hties : (c.schema.ties a r).isSome ∧
        ties scopes equations = if source.names.Nodup then c.schema.ties a r else none := by
      rcases hpath with hpath | hpath
      · exact ties_of_filterPath hpath
      · exact hsides ▸ ties_of_filterPath hpath
    rw [hties.2, ← hpairs hties.1]
  · intro scopes equations source hpath hnames
    rcases hpath with hpath | hpath
    · exact (joinTable_of_filterPath hpath hnames).2
    · obtain ⟨hmany, hclash⟩ := joinTable_of_filterPath hpath hnames
      rw [(h.symm.mirrors.sharesTable hmany).1] at hclash
      exact hclash
  · intro scopes equations hpath
    have hties : (c.schema.ties a r).isSome ∧ ties scopes equations = c.schema.ties a r := by
      rcases hpath with hpath | hpath
      · exact ties_of_joinPath hpath
      · exact hsides ▸ ties_of_joinPath hpath
    rw [hties.2, ← hpairs hties.1]
  · exact h.holdsForeignKey_eq_not
  · intro find x y w w' hw hw'
    obtain ⟨table, hmany, htable, hrow⟩ := junctionRow?_of_connectPath hw
    obtain ⟨table', -, htable', hrow'⟩ := junctionRow?_of_connectPath hw'
    obtain rfl : table = table' :=
      Option.some.inj (htable.symm.trans ((h.mirrors.sharesTable hmany).1.trans htable'))
    have hties := ties_of_isManyToMany (c := c) (a := a) hmany htable
    rw [h.left_target] at hties
    refine ⟨table, _, _, hrow, hrow', ?_, by rw [hties, Option.getD_some], ?_⟩
    · rw [Relation.junctionRow, Relation.junctionRow, (h.joinColumns_eq hmany).1,
        (h.joinColumns_eq hmany).2]
      exact .swap _ _ []
    · rintro first second link rfl rfl
      rw [hties, Option.getD_some]
      exact meets_iff_junctionRow h.ne

/-! ## A join table that is named like an alias -/

/-- Users and posts, which are related to each other over a join table. -/
def authorship (joinTable : String) : Context :=
  { schema := ⟨[("User", { name := "User", table := "users", relations := [("posts",
      { name := "posts", cardinality := .manyToMany, target := "Post",
        joinTable := some joinTable })] }),
    ("Post", { name := "Post", table := "posts", relations := [("users",
      { name := "users", cardinality := .manyToMany, target := "User",
        joinTable := some joinTable })] })]⟩ }

/-- The relation of users to their posts. -/
def userToPosts (joinTable : String) : Relation :=
  { name := "posts", cardinality := .manyToMany, target := "Post", joinTable := some joinTable }

/-- The relation of posts to their users. -/
def postToUsers (joinTable : String) : Relation :=
  { name := "users", cardinality := .manyToMany, target := "User", joinTable := some joinTable }

/-- Users and posts are related from both sides. -/
theorem inverse_authorship (joinTable : String) :
    (authorship joinTable).schema.Inverse "User" "Post" (userToPosts joinTable)
      (postToUsers joinTable) where
  ne := by decide
  left := ⟨"posts", rfl⟩
  right := ⟨"users", rfl⟩
  left_target := rfl
  right_target := rfl
  mirrors := .manyToMany rfl rfl rfl rfl rfl

/-- A filter on the rows of a table alone. -/
theorem standing_plain (c : Context) (model : String) :
    Standing c ⟨.plain c model, [c.schema.tableOf model], false⟩ [c.schema.tableOf model]
      [[(Occurrence.plain c model).seat]] := by
  have hnodup : ([(Occurrence.plain c model).seat].map Seat.name).Nodup := List.nodup_singleton _
  exact .outermost rfl List.mem_cons_self hnodup (List.Subset.refl _)

/-- Where the join table has a name of its own, the users that have posts are found by the pairs that
both sides agree on. -/
theorem exists_agree_authorship :
    ∃ pairs, Agree (authorship "user_posts") "User" "Post" (userToPosts "user_posts")
        (postToUsers "user_posts") pairs ∧
      ∃ scopes equations source,
        FilterPath (authorship "user_posts") "User" (userToPosts "user_posts") scopes equations
          source ∧ ties scopes equations = some pairs := by
  obtain ⟨pairs, hagree⟩ := exists_agree (inverse_authorship "user_posts")
  have hcompiled : criterionConditions (authorship "user_posts")
      ⟨.plain (authorship "user_posts") "User", ["users"], false⟩ "posts" (.related .some [])
      ["users"] = .ok _ := rfl
  have hpath := FilterPath.intro (standing_plain _ "User") rfl rfl hcompiled
  refine ⟨pairs, hagree, _, _, _, hpath, ?_⟩
  rw [hagree.filters _ _ _ (.inl hpath), if_pos (by decide)]

/-- Where the join table is named as the alias of its target, the subquery for the posts of a user is
ambiguous, while the one for the users of a post is tied by the columns of the join table. -/
theorem ties_authorship_alias :
    (authorship "sub_posts").schema.Inverse "User" "Post" (userToPosts "sub_posts")
        (postToUsers "sub_posts") ∧
      (∃ scopes equations source,
        FilterPath (authorship "sub_posts") "User" (userToPosts "sub_posts") scopes equations
          source ∧ ties scopes equations = none) ∧
      ∃ scopes equations source,
        FilterPath (authorship "sub_posts") "Post" (postToUsers "sub_posts") scopes equations
          source ∧
        ties scopes equations = some {s(⟨none, "sub_posts", "A"⟩, ⟨some "Post", "posts", "id"⟩),
          s(⟨none, "sub_posts", "B"⟩, ⟨some "User", "users", "id"⟩)} := by
  have hposts : criterionConditions (authorship "sub_posts")
      ⟨.plain (authorship "sub_posts") "User", ["users"], false⟩ "posts" (.related .some [])
      ["users"] = .ok _ := rfl
  have husers : criterionConditions (authorship "sub_posts")
      ⟨.plain (authorship "sub_posts") "Post", ["posts"], false⟩ "users" (.related .some [])
      ["posts"] = .ok _ := rfl
  have hleft := FilterPath.intro (standing_plain _ "User") rfl rfl hposts
  have hright := FilterPath.intro (standing_plain _ "Post") rfl rfl husers
  refine ⟨inverse_authorship _, ⟨_, _, _, hleft, ?_⟩, _, _, _, hright, ?_⟩
  · rw [(ties_of_filterPath hleft).2, if_neg (by decide)]
  · rw [(ties_of_filterPath hright).2, if_pos (by decide)]
    rfl

end Compile

end RelationalQuery
