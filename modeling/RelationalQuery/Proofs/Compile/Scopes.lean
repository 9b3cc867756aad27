import RelationalQuery.Proofs.Compile.Names
import RelationalQuery.Proofs.Meaning.FilterMeaning
import RelationalQuery.Proofs.Result

/-!
# Names in subqueries

Where a filter is planned, its row has a name in sight, and the names that are drawn for a subquery
are new to everything in sight. So a column of the row outside is found from inside the subquery, and
a column of the related row is found before anything further out.

* `Stands` — how a row's table stands in the scope of its `FROM`.
* `value_own`, `value_outer`, `value_skip` — what a column means there, and from further inside.
* `Entered` — all that `enter` can do, and `entered_of_enter`, which proves it.
* `Tied` — what of it the tables of a subquery keep, and `tied_of_enter`, which proves it.
-/

namespace RelationalQuery

open Sql Compile

/-! ## Columns in scopes -/

/-- How the table of an occurrence stands in a scope: once under its name, among tables with other
names, and alone where its columns are not qualified. -/
structure Stands (e : Engine) (s : Schema) (row : Occurrence) (scope : List Heading) : Prop where
  table : row.table.name = s.tableOf row.model
  mem : e.heading row.table ∈ scope
  nodup : (scope.map Heading.name).Nodup
  alone : row.table.aliasName = none → scope = [e.heading row.table]

/-- An occurrence that stands in a frame, at one of its rows. -/
structure StandsAt (e : Engine) (s : Schema) (row : Occurrence) (frame : Frame) (cells : StoredRow) :
    Prop where
  stands : Stands e s row frame.headings
  mem : ⟨e.heading row.table, cells⟩ ∈ frame

/-- Among things with different names one is found by its name. -/
theorem filter_name_eq {α : Type} {name : α → String} {scope : List α}
    (h : (scope.map name).Nodup) {found : α} (hmem : found ∈ scope) :
    scope.filter (fun other => name other == name found) = [found] := by
  induction scope with
  | nil => exact absurd hmem List.not_mem_nil
  | cons first rest ih =>
    rw [List.map_cons, List.nodup_cons] at h
    obtain ⟨hfirst, hrest⟩ := h
    rcases List.mem_cons.mp hmem with rfl | hmem
    · have hnone : rest.filter (fun other => name other == name found) = [] := by
        rw [List.filter_eq_nil_iff]
        intro other hother hname
        exact hfirst (beq_iff_eq.mp hname ▸ List.mem_map_of_mem hother)
      rw [List.filter_cons, if_pos (beq_self_eq_true _), hnone]
    · have hne : ¬ (name first == name found) = true := by
        intro hname
        exact hfirst (beq_iff_eq.mp hname ▸ List.mem_map_of_mem hmem)
      rw [List.filter_cons, if_neg hne]
      exact ih hrest hmem

variable {e : Engine} {s : Schema} {row : Occurrence} {scope : List Heading}
  {scopes : List (List Heading)} {frame : Frame} {frames : List Frame} {cells : StoredRow}

/-- The columns of a table with an alias are always qualified. -/
theorem own_eq_outer {row : Occurrence} {aliasName : String}
    (h : row.table.aliasName = some aliasName) (column : String) :
    row.own column = row.outer column := by
  rw [Occurrence.own, Occurrence.outer, Occurrence.name, Table.reference, h]
  rfl

/-- A column that is qualified by a table of the innermost scope is bound there. -/
theorem isBound_qualified (h : (scope.map Heading.name).Nodup) {heading : Heading}
    (hmem : heading ∈ scope) {column : String} (hcolumn : column ∈ heading.columns) :
    Column.isBound (scope :: scopes) ⟨some heading.name, column⟩ := by
  have hfound : scope.filter (·.offers ⟨some heading.name, column⟩) = [heading] :=
    filter_name_eq h hmem
  rw [Column.isBound, hfound]
  exact List.contains_iff_mem.mpr hcolumn

/-- A qualified column of an occurrence that stands in the innermost scope is bound there. -/
theorem isBound_outer (h : Stands e s row scope) {column : String}
    (hcolumn : column ∈ (e.tables row.table.name).columns) :
    (row.outer column).isBound (scope :: scopes) :=
  isBound_qualified h.nodup h.mem hcolumn

/-- A column of an occurrence that stands in the innermost scope is bound there. -/
theorem isBound_own (h : Stands e s row scope) {column : String}
    (hcolumn : column ∈ (e.tables row.table.name).columns) :
    (row.own column).isBound (scope :: scopes) := by
  cases halias : row.table.aliasName with
  | some aliasName =>
    rw [own_eq_outer halias]
    exact isBound_outer h hcolumn
  | none =>
    -- the column has no qualifier, but there is only one table that it could belong to
    have hoffers : (e.heading row.table).offers (row.own column) := by
      rw [Heading.offers, Occurrence.own, halias]
      exact List.contains_iff_mem.mpr hcolumn
    rw [h.alone halias, Column.isBound, List.filter_cons, if_pos hoffers, List.filter_nil]
    exact List.contains_iff_mem.mpr hcolumn

/-- A scope without a table of a name is passed over by columns with that qualifier. -/
theorem isBound_skip {name column : String} (h : name ∉ scope.map Heading.name) :
    Column.isBound (scope :: scopes) ⟨some name, column⟩ =
      Column.isBound scopes ⟨some name, column⟩ := by
  have hnone : scope.filter (·.offers ⟨some name, column⟩) = [] := by
    rw [List.filter_eq_nil_iff]
    intro heading hheading hname
    exact h (beq_iff_eq.mp hname ▸ List.mem_map_of_mem hheading)
  rw [Column.isBound, hnone]

/-- Among tables with different names one is found by its name, with its row. -/
theorem find?_name_eq {frame : Frame} (h : (frame.headings.map Heading.name).Nodup)
    {binding : Binding} (hmem : binding ∈ frame) :
    frame.find? (·.heading.name == binding.heading.name) = some binding := by
  induction frame with
  | nil => exact absurd hmem List.not_mem_nil
  | cons first rest ih =>
    rw [Frame.headings, List.map_cons, List.map_cons, List.nodup_cons] at h
    obtain ⟨hfirst, hrest⟩ := h
    rcases List.mem_cons.mp hmem with rfl | hmem
    · rw [List.find?_cons, beq_self_eq_true]
    · have hne : (first.heading.name == binding.heading.name) = false := by
        rw [beq_eq_false_iff_ne]
        intro hname
        exact hfirst (hname ▸ List.mem_map_of_mem (List.mem_map_of_mem hmem))
      rw [List.find?_cons, hne]
      exact ih hrest hmem

/-- A column that is qualified by a table of the innermost frame has the value of its row. -/
theorem value_qualified (h : (frame.headings.map Heading.name).Nodup) {binding : Binding}
    (hmem : binding ∈ frame) (column : String) :
    Column.value (frame :: frames) ⟨some binding.heading.name, column⟩ = binding.row column := by
  have hfound : frame.find? (·.heading.offers ⟨some binding.heading.name, column⟩) =
      some binding := find?_name_eq h hmem
  rw [Column.value, hfound]

/-- A qualified column of an occurrence that stands in the innermost frame has the value of its
row. -/
theorem value_outer (h : StandsAt e s row frame cells) (column : String) :
    (row.outer column).value (frame :: frames) = cells column :=
  value_qualified h.stands.nodup h.mem column

/-- A column of an occurrence that stands in the innermost frame has the value of its row. -/
theorem value_own (h : StandsAt e s row frame cells) {column : String}
    (hcolumn : column ∈ (e.tables row.table.name).columns) :
    (row.own column).value (frame :: frames) = cells column := by
  cases halias : row.table.aliasName with
  | some aliasName =>
    rw [own_eq_outer halias]
    exact value_outer h column
  | none =>
    have halone := h.stands.alone halias
    have hframe : frame = [⟨e.heading row.table, cells⟩] := by
      obtain ⟨binding, rfl, -⟩ := List.map_eq_singleton_iff.mp halone
      rw [List.mem_singleton.mp h.mem]
    have hoffers : (e.heading row.table).offers (row.own column) = true := by
      rw [Heading.offers, Occurrence.own, halias]
      exact List.contains_iff_mem.mpr hcolumn
    rw [hframe, Column.value, List.find?_cons, hoffers]
    rfl

/-- A frame without a table of a name is passed over by columns with that qualifier. -/
theorem value_skip {name column : String} (h : name ∉ frame.headings.map Heading.name) :
    Column.value (frame :: frames) ⟨some name, column⟩ =
      Column.value frames ⟨some name, column⟩ := by
  have hnone : frame.find? (·.heading.offers ⟨some name, column⟩) = none := by
    rw [List.find?_eq_none]
    intro binding hbinding hname
    exact h (beq_iff_eq.mp hname ▸ List.mem_map_of_mem (List.mem_map_of_mem hbinding))
  rw [Column.value, hnone]

/-! ## Entering a subquery -/

namespace Compile

/-- The tables of a subquery over a target that is tied by a column. -/
def Entry.single (scope : Scope) (row : Occurrence) (own target : String) : Entry :=
  { source := .single row.table, row, left := row.own target, right := scope.row.outer own }

/-- The tables of a subquery over a target that is tied by the rows of a join table. -/
def Entry.linked (scope : Scope) (junction : Table) (row : Occurrence)
    (ownId ownColumn targetColumn targetId : String) : Entry :=
  { source :=
      .linked junction row.table (row.outer targetId) ⟨some junction.reference, targetColumn⟩
    row
    left := ⟨some junction.reference, ownColumn⟩
    right := scope.row.outer ownId }

/-- How the tables of a subquery over a relation are introduced: under names that are new to
everything in sight, and tied to the row outside by the columns of the relation. -/
inductive Tied (c : Context) (scope : Scope) (relation : Relation) : Entry → Prop
  | single {row : Occurrence} {own target : String}
    (link : c.schema.link scope.row.model relation = .direct own target)
    (model : row.model = relation.target) (table : row.table.name = c.schema.tableOf row.model)
    (fresh : row.name ∉ scope.visible) : Tied c scope relation (.single scope row own target)
  | linked {junction : Table} {row : Occurrence} {ownId ownColumn targetColumn targetId : String}
    (link : c.schema.link scope.row.model relation =
      .junction (some junction.name) ownId ownColumn targetColumn targetId)
    (model : row.model = relation.target) (table : row.table.name = c.schema.tableOf row.model)
    (aliased : row.table.aliasName ≠ none) (junctionFresh : junction.reference ∉ scope.visible)
    (fresh : row.name ∉ scope.visible) :
    Tied c scope relation
      (.linked scope junction row ownId ownColumn targetColumn targetId)

/-- A drawn name is fresh and counts as used. -/
theorem allocate_run_eq_ok_iff {base name : String} {used after : List String} :
    allocate base used = .ok (name, after) ↔ name = freshName used base ∧ after = name :: used := by
  show Except.ok (freshName used base, freshName used base :: used) = .ok (name, after) ↔ _
  rw [Except.ok.injEq, Prod.mk.injEq]
  constructor
  · rintro ⟨rfl, rfl⟩
    exact ⟨rfl, rfl⟩
  · rintro ⟨rfl, rfl⟩
    exact ⟨rfl, rfl⟩

/-- The name that is drawn for the target of a relation. -/
def targetAlias (used : List String) (field : String) : String := freshName used s!"sub_{field}"

/-- The name that is drawn for a join table, after that of the target. -/
def joinTableAlias (used : List String) (field : String) : String :=
  freshName (targetAlias used field :: used) s!"sub_{field}_join"

/-- All that `enter` can do. The target gets an alias wherever its own name is in sight, and over a
join table always; a join table gets one only where its own name is in sight. -/
inductive Entered (c : Context) (scope : Scope) (field : String) (relation : Relation)
    (used : List String) : Entry → List String → Prop
  | linkedAliased {table ownId ownColumn targetColumn targetId : String}
    (link : c.schema.link scope.row.model relation =
      .junction (some table) ownId ownColumn targetColumn targetId)
    (seen : table ∈ scope.visible) :
    Entered c scope field relation used
      (.linked scope ⟨table, some (joinTableAlias used field)⟩
        (.aliased c relation.target (targetAlias used field)) ownId ownColumn targetColumn targetId)
      (joinTableAlias used field :: targetAlias used field :: used)
  | linked {table ownId ownColumn targetColumn targetId : String}
    (link : c.schema.link scope.row.model relation =
      .junction (some table) ownId ownColumn targetColumn targetId)
    (unseen : table ∉ scope.visible) :
    Entered c scope field relation used
      (.linked scope ⟨table, none⟩ (.aliased c relation.target (targetAlias used field)) ownId
        ownColumn targetColumn targetId)
      (targetAlias used field :: used)
  | singleAliased {own target : String}
    (link : c.schema.link scope.row.model relation = .direct own target)
    (seen : scope.nested = true ∨ c.schema.tableOf relation.target ∈ scope.visible) :
    Entered c scope field relation used
      (.single scope (.aliased c relation.target (targetAlias used field)) own target)
      (targetAlias used field :: used)
  | single {own target : String}
    (link : c.schema.link scope.row.model relation = .direct own target)
    (outermost : scope.nested = false)
    (unseen : c.schema.tableOf relation.target ∉ scope.visible) :
    Entered c scope field relation used (.single scope (.plain c relation.target) own target)
      (c.schema.tableOf relation.target :: used)

/-- Whatever `enter` introduces is introduced in one of these ways. -/
theorem entered_of_enter {c : Context} {scope : Scope} {field : String} {relation : Relation}
    {entry : Entry} {used after : List String}
    (h : enter c scope field relation used = .ok (entry, after)) :
    Entered c scope field relation used entry after := by
  cases hlink : c.schema.link scope.row.model relation with
  | junction table ownId ownColumn targetColumn targetId =>
    cases table with
    | none =>
      simp only [enter, hlink] at h
      cases h
    | some table =>
      simp only [enter, hlink] at h
      rw [bind_run_eq_ok_iff] at h
      obtain ⟨aliasName, between, halias, h⟩ := h
      obtain ⟨rfl, rfl⟩ := allocate_run_eq_ok_iff.mp halias
      by_cases hseen : scope.visible.contains table
      · rw [if_pos hseen, bind_run_eq_ok_iff] at h
        obtain ⟨junctionName, between, hjunction, h⟩ := h
        obtain ⟨rfl, rfl⟩ := allocate_run_eq_ok_iff.mp hjunction
        obtain ⟨rfl, rfl⟩ := pure_run_eq_ok_iff.mp h
        exact .linkedAliased hlink (List.contains_iff_mem.mp hseen)
      · rw [if_neg hseen] at h
        obtain ⟨rfl, rfl⟩ := pure_run_eq_ok_iff.mp h
        exact .linked hlink fun hmem => hseen (List.contains_iff_mem.mpr hmem)
  | direct own target =>
    simp only [enter, hlink] at h
    by_cases hseen : scope.nested || scope.visible.contains (c.schema.tableOf relation.target)
    · rw [if_pos hseen, bind_run_eq_ok_iff] at h
      obtain ⟨aliasName, between, halias, h⟩ := h
      obtain ⟨rfl, rfl⟩ := allocate_run_eq_ok_iff.mp halias
      obtain ⟨rfl, rfl⟩ := pure_run_eq_ok_iff.mp h
      rw [Bool.or_eq_true, List.contains_iff_mem] at hseen
      exact .singleAliased hlink hseen
    · rw [if_neg hseen] at h
      obtain ⟨rfl, rfl⟩ := pure_run_eq_ok_iff.mp h
      rw [Bool.or_eq_true, not_or, Bool.not_eq_true, List.contains_iff_mem] at hseen
      exact .single hlink hseen.1 hseen.2

/-- The rows of a subquery are those of the relation's target. -/
theorem Entered.model_row {c : Context} {scope : Scope} {field : String} {relation : Relation}
    {entry : Entry} {used after : List String} (h : Entered c scope field relation used entry after) :
    entry.row.model = relation.target := by
  cases h <;> rfl

/-- The tables of a subquery are tied to the row outside, and the name of the related row counts as
used, as does whatever did before. -/
theorem tied_of_enter {c : Context} {scope : Scope} {field : String} {relation : Relation}
    {entry : Entry} {used after : List String} (hvisible : scope.visible ⊆ used)
    (h : enter c scope field relation used = .ok (entry, after)) :
    Tied c scope relation entry ∧ entry.row.name ∈ after ∧ used ⊆ after := by
  -- a drawn name is new to everything that counts as used, and so to everything in sight
  have hfresh : targetAlias used field ∉ scope.visible :=
    fun hmem => freshName_notMem used _ (hvisible hmem)
  have hkept : used ⊆ targetAlias used field :: used := fun _ h => List.mem_cons_of_mem _ h
  cases entered_of_enter h with
  | linkedAliased link seen =>
    have hjunction : joinTableAlias used field ∉ scope.visible :=
      fun hmem => freshName_notMem _ _ (hkept (hvisible hmem))
    exact ⟨.linked link rfl rfl (Option.some_ne_none _) hjunction hfresh,
      List.mem_cons_of_mem _ List.mem_cons_self, fun _ h => List.mem_cons_of_mem _ (hkept h)⟩
  | linked link unseen =>
    exact ⟨.linked link rfl rfl (Option.some_ne_none _) unseen hfresh, List.mem_cons_self, hkept⟩
  | singleAliased link seen => exact ⟨.single link rfl rfl hfresh, List.mem_cons_self, hkept⟩
  | single link outermost unseen =>
    exact ⟨.single link rfl rfl unseen, List.mem_cons_self, fun _ h => List.mem_cons_of_mem _ h⟩

end Compile

end RelationalQuery
