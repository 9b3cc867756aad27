import RelationalQuery.Proofs.Compile.Where
import RelationalQuery.Proofs.Sql.Placeholders

/-!
# Subqueries capture no names

Every subquery over related rows stands in a statement, or in other subqueries, whose tables have
names. `guarded_of_handsOut` says that it takes none of those that a column inside may need, that it
is tied to the row right outside of it, and that every column inside names a table that is there.

## Shape of the scopes

`Surroundings` are what is known of the scopes around a condition: the name of the row that the
condition is about, the names that no table inside may take, and all names that are declared. A
subquery takes its target as the row and adds its own names. `Guarded` follows the conditions down
with the surroundings, and `Plan.places` lists where the conditions of a statement start. All that
stands there are the conditions of filters (`placed_of_planned`), planned for the row of the place.

The planner keeps the same things by other means: a list of visible names, and a list of used names
that only grows. `Fits` ties the one to the other.
-/

namespace RelationalQuery

open Sql

/-! ## Surroundings -/

namespace Sql

/-- The table of a subquery whose rows are related to the row outside. -/
def Source.target : Source → Table
  | single table => table
  | linked _ target _ _ => target

/-- Whether a column is one of the tables of a `FROM`: qualified by a name there, or without a name
if there is only one table, which has no alias. -/
def Source.Offers (source : Source) (column : Column) : Prop :=
  (∃ name ∈ source.names, column.table = some name) ∨
    column.table = none ∧ ∃ table, source = .single table ∧ table.aliasName = none

/-- What is known of the scopes around a condition. -/
structure Surroundings where
  /-- The name of the row that the condition is about. -/
  parent : String
  /-- The names of rows, which no table inside may take. -/
  occupied : List String
  /-- The names of all tables. -/
  declared : List String

namespace Surroundings

/-- Whether the qualifier of a column is declared, if it has one. -/
def Declares (around : Surroundings) (column : Column) : Prop :=
  ∀ table, column.table = some table → table ∈ around.declared

/-- The surroundings of the conditions of a subquery. -/
def within (around : Surroundings) (source : Source) : Surroundings where
  parent := source.target.reference
  occupied := source.target.reference :: around.occupied
  declared := source.names ++ around.declared

/-- Whether a subquery over the tables of a `FROM`, which is tied by two columns, may stand in some
surroundings. -/
structure Admits (around : Surroundings) (source : Source) (left right : Column) : Prop where
  /-- No table takes the name of a row outside. -/
  fresh : ∀ name ∈ source.names, name ∉ around.occupied
  /-- The first column is one of its own tables. -/
  own : source.Offers left
  /-- The second column is one of the row right outside. -/
  outer : right.table = some around.parent
  known : around.parent ∈ around.declared
  /-- Its tables are joined by columns that are declared. -/
  joined : ∀ columns ∈ source.equations,
    (around.within source).Declares columns.1 ∧ (around.within source).Declares columns.2

end Surroundings

namespace Condition

mutual

/-- Whether all columns of a condition are declared, and all of its subqueries admitted. -/
def Guarded (around : Surroundings) : Condition → Prop
  | isNull column _ => around.Declares column
  | compare column _ _ => around.Declares column
  | member column _ _ => around.Declares column
  | junction _ clauses => ClausesGuarded around clauses
  | negation clause => AreGuarded around clause
  | subquery _ source left right conditions =>
    around.Admits source left right ∧ AreGuarded (around.within source) conditions

/-- `Guarded` for conditions. -/
def AreGuarded (around : Surroundings) : List Condition → Prop
  | [] => True
  | condition :: rest => condition.Guarded around ∧ AreGuarded around rest

/-- `Guarded` for clauses. -/
def ClausesGuarded (around : Surroundings) : List (List Condition) → Prop
  | [] => True
  | clause :: rest => AreGuarded around clause ∧ ClausesGuarded around rest

end

end Condition

/-! ## Places of conditions -/

/-- The name of what a read takes its rows from. -/
def Base.reference : Base → String
  | table t => t.reference
  | page _ aliasName => aliasName

/-- The name of the table that a join ends with. -/
def Join.target (join : Join) : String :=
  (join.steps.map fun step => step.1.reference).getLast?.getD ""

/-- The names of all tables in the `FROM` of a read. -/
def Select.names (s : Select) : List String :=
  s.base.reference :: s.joins.flatMap fun join => join.steps.map fun step => step.1.reference

/-- The clause of an item that counts the rows that pass it. -/
def Item.clause? : Item → Option Clause
  | filteredCount clause _ => some clause
  | _ => none

/-- The surroundings of conditions on the rows of a table alone. -/
def Surroundings.alone (name : String) : Surroundings := ⟨name, [name], [name]⟩

/-- The surroundings of conditions in a read, on the rows of a table in its `FROM`. -/
def Select.around (s : Select) (name : String) : Surroundings := ⟨name, s.names, s.names⟩

/-- Where conditions stand in a read: in its `WHERE`, in the `ON` of its joins, in its filtered
counts, and in the `WHERE` of the page that it reads. -/
def Select.places (s : Select) : List (Surroundings × Clause) :=
  (s.around s.base.reference, s.clause) ::
    (s.joins.map (fun join => (s.around join.target, join.conditions)) ++
      s.items.filterMap (fun item =>
        item.clause?.map fun clause => (s.around s.base.reference, clause)) ++
      match s.base with
      | .table _ => []
      | .page p _ => [(.alone p.table.reference, p.clause)])

/-- Where conditions stand in a write. -/
def Write.places : Write → List (Surroundings × Clause)
  | update table _ clause _ => [(.alone table, clause)]
  | delete table clause => [(.alone table, clause)]
  | _ => []

end Sql

namespace Compile

/-- Where conditions stand in a plan. -/
def Plan.places : Plan → List (Surroundings × Clause)
  | .read r => r.select.places
  | .write w => w.places

/-- Whether all conditions of a plan are guarded. -/
def Plan.Guarded (p : Plan) : Prop := ∀ place ∈ p.places, Condition.AreGuarded place.1 place.2

variable {c : Context} {scope : Scope} {around : Surroundings} {key : String} {clause : Clause}
  {used after : List String} {column : Column} {field : String}

/-! ## Comparisons -/

theorem areGuarded_of_forall (h : ∀ condition ∈ clause, condition.Guarded around) :
    Condition.AreGuarded around clause := by
  induction clause with
  | nil => trivial
  | cons condition clause ih =>
    rw [List.forall_mem_cons] at h
    exact ⟨h.1, ih h.2⟩

/-- Comparisons are guarded if their column is declared. -/
theorem Comparative.guarded {condition : Condition} (hcolumn : around.Declares column)
    (h : Comparative column condition) : condition.Guarded around := by
  induction h with
  | single compared => cases compared <;> exact hcolumn
  | negation parts ih => exact areGuarded_of_forall ih

/-! ## Clauses side by side -/

theorem areGuarded_append {a b : Clause} (ha : Condition.AreGuarded around a)
    (hb : Condition.AreGuarded around b) : Condition.AreGuarded around (a ++ b) := by
  induction a with
  | nil => exact hb
  | cons condition a ih => exact ⟨ha.1, ih ha.2⟩

/-- Guarded clauses are combined to a guarded clause. -/
theorem areGuarded_combined {clauses : List Clause} (h : Condition.ClausesGuarded around clauses)
    (connective : Connective) : Condition.AreGuarded around (combined connective clauses) := by
  cases connective with
  | all => exact ⟨h, trivial⟩
  | any => exact ⟨h, trivial⟩
  | not =>
    induction clauses with
    | nil => trivial
    | cons clause clauses ih => exact ⟨h.1, ih h.2⟩

/-! ## Subqueries -/

/-- Whether a scope of the planner stands for some surroundings: the row has the name that is
declared, and whatever may not be taken is visible. -/
structure Fits (scope : Scope) (around : Surroundings) : Prop where
  parent : around.parent = scope.row.name
  known : around.parent ∈ around.declared
  visible : around.occupied ⊆ scope.visible

/-- The columns of the row are declared. -/
theorem Fits.declares_field (h : Fits scope around) (key : String) :
    around.Declares (scope.row.field c key) := by
  intro table htable
  have hname : scope.row.name = table := by
    rw [Occurrence.name, Table.reference, show scope.row.table.aliasName = some table from htable]
    rfl
  rw [← hname, ← h.parent]
  exact h.known

/-- A column of an occurrence is one of the table alone where it stands. -/
theorem offers_own (row : Occurrence) (column : String) :
    (Source.single row.table).Offers (row.own column) := by
  cases halias : row.table.aliasName with
  | none => exact Or.inr ⟨halias, row.table, rfl, halias⟩
  | some aliasName =>
    have hname : row.table.reference = aliasName := by
      rw [Table.reference, halias]
      rfl
    exact Or.inl ⟨aliasName, hname ▸ List.mem_singleton.mpr rfl, halias⟩

/-- Whatever is tied to the row of a scope may stand in its surroundings. -/
theorem Tied.admits {relation : Relation} {entry : Entry} (htied : Tied c scope relation entry)
    (hfits : Fits scope around) : around.Admits entry.source entry.left entry.right := by
  cases htied with
  | @single row own target link model table fresh =>
    refine ⟨fun name hname hmem => ?_, offers_own row target, congrArg some hfits.parent.symm,
      hfits.known, fun columns h => absurd h List.not_mem_nil⟩
    obtain rfl := List.mem_singleton.mp hname
    exact fresh (hfits.visible hmem)
  | @linked junction row ownId ownColumn targetColumn targetId link model table aliased
      junctionFresh fresh =>
    -- the names of both tables are declared inside
    have hjunction : junction.reference ∈ [junction.reference, row.name] := List.mem_cons_self
    have hrow : row.name ∈ [junction.reference, row.name] :=
      List.mem_cons_of_mem _ List.mem_cons_self
    have hdeclared {name column : String} (hname : name ∈ [junction.reference, row.name]) :
        (around.within (Entry.linked scope junction row ownId ownColumn targetColumn
          targetId).source).Declares ⟨some name, column⟩ := by
      intro table htable
      obtain rfl := Option.some.inj htable
      exact List.mem_append_left _ hname
    refine ⟨fun name hname hmem => ?_, Or.inl ⟨_, hjunction, rfl⟩,
      congrArg some hfits.parent.symm, hfits.known, fun columns hcolumns => ?_⟩
    · rcases List.mem_cons.mp hname with rfl | hname
      · exact junctionFresh (hfits.visible hmem)
      · obtain rfl := List.mem_singleton.mp hname
        exact fresh (hfits.visible hmem)
    · obtain rfl := List.mem_singleton.mp hcolumns
      exact ⟨hdeclared hrow, hdeclared hjunction⟩

/-- The target of a tied subquery is its row. -/
theorem Tied.target_source {relation : Relation} {entry : Entry}
    (h : Tied c scope relation entry) : entry.source.target = entry.row.table := by
  cases h <;> rfl

/-- The scope inside of a subquery stands for the surroundings there. -/
theorem Tied.fits {relation : Relation} {entry : Entry} (htied : Tied c scope relation entry)
    (hfits : Fits scope around) :
    Fits ⟨entry.row, entry.row.name :: scope.visible, true⟩ (around.within entry.source) := by
  have htarget : entry.source.target.reference = entry.row.name :=
    congrArg Table.reference htied.target_source
  refine ⟨htarget, ?_, ?_⟩
  · refine List.mem_append_left _ ?_
    cases htied with
    | single link model table fresh => exact List.mem_singleton.mpr rfl
    | linked link model table aliased junctionFresh fresh =>
      exact List.mem_cons_of_mem _ List.mem_cons_self
  · rw [Surroundings.within, htarget]
    exact List.cons_subset_cons _ hfits.visible

/-- A guarded clause on the related rows is put into a guarded subquery. -/
theorem guarded_quantified {relation : Relation} {entry : Entry}
    (htied : Tied c scope relation entry) (hfits : Fits scope around)
    (h : Condition.AreGuarded (around.within entry.source) clause) (quantifier : Quantifier) :
    (quantified quantifier entry clause).Guarded around := by
  cases quantifier with
  | some => exact ⟨htied.admits hfits, h⟩
  | none => exact ⟨htied.admits hfits, h⟩
  | every => exact ⟨htied.admits hfits, h, trivial⟩

/-! ## Filters -/

mutual

/-- The conditions of a filter are guarded, and no name is forgotten. -/
theorem guarded_conditions (scope : Scope) {around : Surroundings} :
    (filter : List (String × Criterion)) → {clause : Clause} → {used after : List String} →
    conditions c scope filter used = .ok (clause, after) → Fits scope around →
    scope.visible ⊆ used → Condition.AreGuarded around clause ∧ used ⊆ after
  | [], clause, used, after, h, _, _ => by
    obtain ⟨rfl, rfl⟩ := conditions_nil_eq_ok h
    exact ⟨trivial, fun _ h => h⟩
  | (key, criterion) :: rest, clause, used, after, h, hfits, hused => by
    obtain ⟨here, others, between, hhere, hothers, rfl⟩ := conditions_cons_eq_ok h
    obtain ⟨hfirst, hkept⟩ := guarded_criterionConditions scope key criterion hhere hfits hused
    obtain ⟨hrest, hlast⟩ := guarded_conditions scope rest hothers hfits
      fun _ h => hkept (hused h)
    exact ⟨areGuarded_append hfirst hrest, fun _ h => hlast (hkept h)⟩

/-- The conditions of one entry of a filter are guarded. -/
theorem guarded_criterionConditions (scope : Scope) {around : Surroundings} (key : String) :
    (criterion : Criterion) → {clause : Clause} → {used after : List String} →
    criterionConditions c scope key criterion used = .ok (clause, after) → Fits scope around →
    scope.visible ⊆ used → Condition.AreGuarded around clause ∧ used ⊆ after
  | .literal value, clause, used, after, h, hfits, _ => by
    obtain ⟨-, rfl, rfl⟩ := literal_eq_ok h
    have hequals := comparative_equals (scope.row.field c key) value
    exact ⟨⟨hequals.guarded (hfits.declares_field key), trivial⟩, fun _ h => h⟩
  | .comparison operators, clause, used, after, h, hfits, _ => by
    obtain ⟨-, hcomparisons, rfl⟩ := comparison_eq_ok h
    have hguarded := areGuarded_of_forall fun condition hcondition =>
      (comparative_comparisons hcomparisons condition hcondition).guarded (hfits.declares_field key)
    exact ⟨hguarded, fun _ h => h⟩
  | .logical connective operands, clause, used, after, h, hfits, hused => by
    obtain ⟨-, parts, hparts, rfl⟩ := logical_eq_ok h
    obtain ⟨hguarded, hkept⟩ := guarded_clauses scope operands hparts hfits hused
    exact ⟨areGuarded_combined hguarded connective, hkept⟩
  | .related quantifier nested, clause, used, after, h, hfits, hused => by
    obtain ⟨relation, entry, between, inner, -, -, henter, hinner, rfl⟩ := related_eq_ok h
    obtain ⟨htied, hname, hkept⟩ := tied_of_enter hused henter
    -- inside of the subquery the related row is in sight too, by a name that counts as used
    have hvisible : entry.row.name :: scope.visible ⊆ between :=
      List.cons_subset.mpr ⟨hname, fun _ h => hkept (hused h)⟩
    obtain ⟨hguarded, hlast⟩ := guarded_conditions
      ⟨entry.row, entry.row.name :: scope.visible, true⟩ nested hinner (htied.fits hfits) hvisible
    exact ⟨⟨guarded_quantified htied hfits hguarded quantifier, trivial⟩,
      fun _ h => hlast (hkept h)⟩

/-- The clauses of filters are guarded, one by one. -/
theorem guarded_clauses (scope : Scope) {around : Surroundings} :
    (filters : List (List (String × Criterion))) → {parts : List Clause} →
    {used after : List String} → clauses c scope filters used = .ok (parts, after) →
    Fits scope around → scope.visible ⊆ used →
    Condition.ClausesGuarded around parts ∧ used ⊆ after
  | [], parts, used, after, h, _, _ => by
    obtain ⟨rfl, rfl⟩ := clauses_nil_eq_ok h
    exact ⟨trivial, fun _ h => h⟩
  | filter :: rest, parts, used, after, h, hfits, hused => by
    obtain ⟨clause, others, between, hclause, hothers, rfl⟩ := clauses_cons_eq_ok h
    obtain ⟨hguarded, hkept⟩ := guarded_conditions scope filter hclause hfits hused
    obtain ⟨hrest, hlast⟩ := guarded_clauses scope rest hothers hfits fun _ h => hkept (hused h)
    exact ⟨⟨hguarded, hrest⟩, fun _ h => hlast (hkept h)⟩

end

/-- The clause of a filter is guarded where its row is one of the visible names. -/
theorem guarded_clauseOf {row : Occurrence} {visible : List String} {filter : Filter}
    (hname : row.name ∈ visible) (h : clauseOf c row visible filter = .ok clause) :
    Condition.AreGuarded ⟨row.name, visible, visible⟩ clause := by
  obtain ⟨⟨planned, after⟩, hconditions, rfl⟩ := map_eq_ok_iff.mp h
  have hfits : Fits ⟨row, visible, false⟩ ⟨row.name, visible, visible⟩ :=
    ⟨rfl, hname, fun _ h => h⟩
  exact (guarded_conditions _ filter hconditions hfits fun _ h => h).1

/-- A clause that may be missing is guarded in the same way. -/
theorem guarded_optionalClause {row : Occurrence} {visible : List String} {filter : Option Filter}
    (hname : row.name ∈ visible) (h : optionalClause c row visible filter = .ok clause) :
    Condition.AreGuarded ⟨row.name, visible, visible⟩ clause := by
  cases filter with
  | some given => exact guarded_clauseOf hname h
  | none =>
    obtain rfl := Except.ok.inj h
    trivial

/-! ## Places of filters -/

/-- Whether the conditions at a place are those of a filter, on the row that they are about and with
all of the names there in sight. -/
inductive Placed (c : Context) : Surroundings × Clause → Prop
  | filter {row : Occurrence} {visible : List String} {filter : Option Filter} {clause : Clause}
    (seen : row.name ∈ visible) (planned : optionalClause c row visible filter = .ok clause) :
    Placed c (⟨row.name, visible, visible⟩, clause)

namespace Placed

/-- No conditions are those of a filter that is missing. -/
theorem nothing {row : Occurrence} {visible : List String} (seen : row.name ∈ visible) :
    Placed c (⟨row.name, visible, visible⟩, []) := by
  have hplanned : optionalClause c row visible none = .ok [] := rfl
  exact .filter seen hplanned

/-- The conditions of a filter on the rows of a table alone. -/
theorem alone {row : Occurrence} {filter : Option Filter}
    (h : optionalClause c row [row.name] filter = .ok clause) :
    Placed c (.alone row.name, clause) :=
  .filter List.mem_cons_self h

/-- The conditions of a filter are guarded wherever they stand. -/
theorem guarded {place : Surroundings × Clause} (h : Placed c place) :
    Condition.AreGuarded place.1 place.2 := by
  cases h with
  | filter seen planned => exact guarded_optionalClause seen planned

end Placed

/-! ## Reads -/

/-- Whether all conditions of a read are those of filters, by the places where they stand. -/
structure PlacedSelect (c : Context) (s : Select) : Prop where
  clause : Placed c (s.around s.base.reference, s.clause)
  joins : ∀ join ∈ s.joins, Placed c (s.around join.target, join.conditions)
  items : ∀ item ∈ s.items, ∀ clause, item.clause? = some clause →
    Placed c (s.around s.base.reference, clause)
  page : ∀ p aliasName, s.base = .page p aliasName →
    Placed c (.alone p.table.reference, p.clause)

/-- There are no other places. -/
theorem PlacedSelect.placed {r : Read} (h : PlacedSelect c r.select) :
    ∀ place ∈ (Plan.read r).places, Placed c place := by
  intro place hplace
  have hplaces : place ∈ r.select.places := hplace
  rw [Select.places, List.mem_cons, List.mem_append, List.mem_append] at hplaces
  rcases hplaces with rfl | (hjoin | hitem) | hpage
  · exact h.clause
  · obtain ⟨join, hmem, rfl⟩ := List.mem_map.mp hjoin
    exact h.joins join hmem
  · obtain ⟨item, hmem, hplace⟩ := List.mem_filterMap.mp hitem
    obtain ⟨clause, hclause, rfl⟩ := Option.map_eq_some_iff.mp hplace
    exact h.items item hmem clause hclause
  · cases hbase : r.select.base with
    | table t =>
      rw [hbase] at hpage
      exact absurd hpage List.not_mem_nil
    | page p aliasName =>
      rw [hbase] at hpage
      obtain rfl := List.mem_singleton.mp hpage
      exact h.page p aliasName hbase

/-- Items of dialects without filtered counts have no clauses. -/
theorem clause?_of_standard {item : Item} (h : item.Standard .mysql) : item.clause? = none := by
  cases item with
  | filteredCount clause aliasName => exact absurd h Bool.false_ne_true
  | _ => rfl

/-- The conditions of a page are those of a filter, which only knows its own table. -/
theorem placed_planPage {q : Query} {take : Option Int64} {page : Page}
    (h : planPage c q.model q.arguments take = .ok page) :
    Placed c (.alone page.table.reference, page.clause) := by
  rw [planPage, bind_eq_ok_iff] at h
  obtain ⟨clause, hclause, h⟩ := h
  obtain rfl := Except.ok.inj h
  exact .alone hclause

/-- Where counts and aggregates take their rows from, the conditions are those of a filter, and the
rows go by the name of the row that is aggregated. -/
theorem placed_planSource {q : Query} {source : Base × Clause} (h : planSource c q = .ok source) :
    source.1.reference = (aggregatedRow c q).name ∧
      Placed c (.alone source.1.reference, source.2) ∧
      ∀ p aliasName, source.1 = .page p aliasName →
        Placed c (.alone p.table.reference, p.clause) := by
  rw [planSource] at h
  rw [aggregatedRow]
  split at h
  · next hcut =>
    rw [bind_eq_ok_iff] at h
    obtain ⟨page, hpage, h⟩ := h
    obtain rfl := Except.ok.inj h
    rw [if_pos hcut]
    have hnothing : Placed c (.alone (Occurrence.aliased c q.model pageAlias).name, []) :=
      .nothing List.mem_cons_self
    refine ⟨rfl, hnothing, fun p aliasName hbase => ?_⟩
    obtain ⟨rfl, -⟩ := Base.page.inj hbase
    exact placed_planPage hpage
  · next hcut =>
    dsimp only at h
    rw [bind_eq_ok_iff] at h
    obtain ⟨clause, hclause, h⟩ := h
    obtain rfl := Except.ok.inj h
    rw [if_neg hcut]
    refine ⟨rfl, .alone hclause, fun p aliasName hbase => ?_⟩
    cases hbase

/-- Filtered counts have the conditions of filters on the row that is aggregated. -/
theorem placed_planAggregates {filtered : Bool} {row : Occurrence} {spec : Aggregates}
    {items : List Item} (h : planAggregates c filtered row spec = .ok items) :
    ∀ item ∈ items, ∀ clause, item.clause? = some clause →
      Placed c (.alone row.name, clause) := by
  intro item hitem clause hclause
  rcases mem_planAggregates h hitem with hplain | ⟨-, counted, -, planned, hplanned, rfl⟩
  · rw [clause?_of_standard (standard_plainAggregates item hplain)] at hclause
    cases hclause
  · obtain rfl := Option.some.inj hclause
    have hfilter : optionalClause c row [row.name] (some counted.2) = .ok planned := hplanned
    exact .alone hfilter

/-- A join ends with the table of its rows. -/
theorem target_renderJoin {visible : List String} {planned : PlannedJoin} {join : Join}
    (h : renderJoin c visible planned = .ok join) : join.target = planned.row.name := by
  rw [Join.target]
  rcases steps_of_joinSteps (joinSteps_of_renderJoin h) with
    ⟨own, target, -, hsteps⟩ | ⟨table, ownId, ownColumn, targetColumn, targetId, -, hsteps⟩
  · rw [hsteps]
    rfl
  · rw [hsteps]
    rfl

/-- The conditions of a join are those of a filter, where its own table is a visible one. -/
theorem placed_renderJoin {visible : List String} {planned : PlannedJoin} {join : Join}
    (hname : planned.row.name ∈ visible) (h : renderJoin c visible planned = .ok join) :
    Placed c (⟨join.target, visible, visible⟩, join.conditions) := by
  rw [target_renderJoin h]
  rw [renderJoin, bind_eq_ok_iff] at h
  obtain ⟨steps, -, h⟩ := h
  rw [bind_eq_ok_iff] at h
  obtain ⟨conditions, hconditions, h⟩ := h
  obtain rfl := Except.ok.inj h
  exact .filter hname hconditions

/-- The name of a joined table is among the names of its join. -/
theorem name_mem_names (join : PlannedJoin) : join.row.name ∈ join.names := by
  rw [PlannedJoin.names]
  split
  · exact List.mem_cons_of_mem _ List.mem_cons_self
  · exact List.mem_cons_self

/-- The names that filters are told of are those that the rendered joins introduce. -/
theorem FindParts.visible_eq {q : Query} {joins : List PlannedJoin} {computed : List Item}
    {joined : List Join} (parts : FindParts c q joins computed joined) :
    findVisible c q joins =
      (findBase c q).name :: joined.flatMap fun join => join.steps.map fun step =>
        step.1.reference := by
  have hjoined := names_mapM_renderJoin parts.rendered
  rw [List.map_flatMap] at hjoined
  simp only [List.map_map] at hjoined
  rw [findVisible, ← hjoined]
  rfl

/-- A read that finds rows has the conditions of its filters, which know the names of all of its
tables, and of a page, which knows only its own. -/
theorem placed_planFind {q : Query} {r : Read} (h : planFind c q = .ok r) :
    ∀ place ∈ (Plan.read r).places, Placed c place := by
  have hitems : ∀ item ∈ r.select.items, ∀ clause, item.clause? = some clause →
      Placed c (r.select.around r.select.base.reference, clause) := by
    intro item hitem clause hclause
    rw [clause?_of_standard (standard_planFind h item hitem)] at hclause
    cases hclause
  have hjoins {joins : List PlannedJoin} {computed : List Item} {joined : List Join}
      (parts : FindParts c q joins computed joined) : ∀ join ∈ joined,
      Placed c (⟨join.target, findVisible c q joins, findVisible c q joins⟩, join.conditions) := by
    intro join hjoin
    obtain ⟨planned, hplanned, hrendered⟩ := exists_of_mem_mapM parts.rendered hjoin
    refine placed_renderJoin (List.mem_cons_of_mem _ ?_) hrendered
    exact List.mem_flatMap.mpr ⟨planned, hplanned, name_mem_names planned⟩
  cases found_of_planFind h with
  | @paged joins computed joined page parts page_planned =>
    have hnothing : Placed c
        (⟨(findBase c q).name, findVisible c q joins, findVisible c q joins⟩, []) :=
      .nothing List.mem_cons_self
    have hplaced := hjoins parts
    rw [parts.visible_eq] at hplaced hnothing
    refine PlacedSelect.placed ⟨hnothing, hplaced, hitems, fun p aliasName hbase => ?_⟩
    obtain ⟨rfl, -⟩ := Base.page.inj hbase
    exact placed_planPage page_planned
  | @direct joins computed joined clause parts clause_planned =>
    have hclause : Placed c
        (⟨(findBase c q).name, findVisible c q joins, findVisible c q joins⟩, clause) :=
      .filter List.mem_cons_self clause_planned
    have hplaced := hjoins parts
    rw [parts.visible_eq] at hplaced hclause
    refine PlacedSelect.placed ⟨hclause, hplaced, hitems, fun p aliasName hbase => ?_⟩
    cases hbase

/-! ## Plans -/

/-- The conditions of an update or delete are those of a filter. -/
theorem placed_writtenClause {q : Query} (h : writtenClause c q = .ok clause) :
    Placed c (.alone (c.schema.tableOf q.model), clause) := by
  have hfilter : optionalClause c (.plain c q.model) [(Occurrence.plain c q.model).name]
      q.arguments.filter = .ok clause := h
  exact .alone hfilter

/-- A write without conditions has no places for any. -/
theorem notMem_places_of_where? {w : Write} (h : (Plan.write w).where? = none)
    (place : Surroundings × Clause) : place ∉ (Plan.write w).places := by
  intro hplace
  have hplaces : place ∈ w.places := hplace
  cases w with
  | update => cases h
  | delete => cases h
  | _ => exact absurd hplaces List.not_mem_nil

/-- All conditions of a plan are those of filters. -/
theorem placed_of_planned {filtered : Bool} {q : Query} {p : Plan} (h : Planned c filtered q p) :
    ∀ place ∈ p.places, Placed c place := by
  have hnone {w : Write} (hw : (Plan.write w).where? = none) :
      ∀ place ∈ (Plan.write w).places, Placed c place :=
    fun place hplace => absurd hplace (notMem_places_of_where? hw place)
  cases h with
  | find h => exact placed_planFind h
  | count h =>
    obtain ⟨source, hsource, rfl⟩ := exists_of_planCount h
    obtain ⟨-, hclause, hpage⟩ := placed_planSource hsource
    refine PlacedSelect.placed ⟨hclause, fun join h => absurd h List.not_mem_nil, ?_, hpage⟩
    intro item hitem clause hfound
    obtain rfl := List.mem_singleton.mp hitem
    cases hfound
  | aggregate h =>
    obtain ⟨items, source, hitems, hsource, rfl⟩ := aggregates_of_planAggregate h
    obtain ⟨hname, hclause, hpage⟩ := placed_planSource hsource
    have hplaced := placed_planAggregates hitems
    rw [← hname] at hplaced
    exact PlacedSelect.placed ⟨hclause, fun join h => absurd h List.not_mem_nil, hplaced, hpage⟩
  | groupBy h =>
    obtain ⟨aggregates, clause, haggregates, hclause, rfl⟩ := exists_of_planGroupBy h
    refine PlacedSelect.placed ⟨.alone hclause, fun join h => absurd h List.not_mem_nil, ?_, ?_⟩
    · intro item hitem found hfound
      rcases List.mem_append.mp hitem with hgroup | haggregate
      · obtain ⟨column, -, rfl⟩ := List.mem_map.mp hgroup
        cases hfound
      · exact placed_planAggregates haggregates item haggregate found hfound
    · intro p aliasName hbase
      cases hbase
  | create h => exact hnone (where?_of_planCreate h)
  | createMany h => exact hnone (where?_of_planCreateMany h)
  | upsert h => exact hnone (where?_of_planUpsert h)
  | update returned h =>
    obtain ⟨assignments, clause, hclause, rfl⟩ := exists_of_planUpdate h
    intro place hplace
    obtain rfl := List.mem_singleton.mp hplace
    exact placed_writtenClause hclause
  | delete h =>
    obtain ⟨clause, hclause, rfl⟩ := exists_of_planDelete h
    intro place hplace
    obtain rfl := List.mem_singleton.mp hplace
    exact placed_writtenClause hclause

/-- Writes to join tables have no conditions on related rows. -/
theorem notMem_places_junctionWrites {model : String} {id : Value} {junction : JunctionWrite}
    {writes : List Write} (h : junctionWrites c model id junction = .ok writes) :
    ∀ w ∈ writes, ∀ place, place ∉ (Plan.write w).places := by
  intro w hw
  unfold junctionWrites at h
  extract_lets relation own other targets at h
  split at h
  · obtain rfl := Except.ok.inj h
    exact absurd hw List.not_mem_nil
  · cases h
  · obtain rfl := Except.ok.inj h
    rcases List.mem_append.mp hw with hconnect | hdisconnect
    · obtain ⟨target, -, rfl⟩ := List.mem_map.mp hconnect
      exact notMem_places_of_where? rfl
    · obtain ⟨target, -, rfl⟩ := List.mem_map.mp hdisconnect
      exact notMem_places_of_where? rfl

/-- No write to a join table that a mutation plans has conditions. -/
theorem notMem_places_of_mem_junctions {filtered : Bool} {q : Query} {m : MutationPlan}
    (h : planMutation c filtered q = .ok m) :
    ∀ w ∈ m.junctions, ∀ place, place ∉ (Plan.write w).places := by
  intro w hw
  cases mutated_of_planMutation h with
  | alone hmain => exact absurd hw List.not_mem_nil
  | connected data split some_junction action row_planned id_found writes_planned =>
    obtain ⟨writes, hwrites, hw⟩ := List.mem_flatten.mp hw
    obtain ⟨junction, -, hjunction⟩ := exists_of_mem_mapM writes_planned hwrites
    exact notMem_places_junctionWrites hjunction w hw

end Compile

namespace Compiler

open Compile

variable {k : Compiler} {q : Query} {s : Statement}

/-- All conditions of a compiler's plans are those of filters. -/
theorem placed_of_plans {p : Plan} (h : k.Plans q p) :
    ∀ place ∈ p.places, Placed k.context place := by
  cases h with
  | statement h => exact placed_of_planned (planned_of_plan h)
  | main h =>
    obtain ⟨q', hplanned, -, -⟩ := planned_of_planMutation h
    exact placed_of_planned hplanned
  | relation h hw =>
    exact fun place hplace => absurd hplace (notMem_places_of_mem_junctions h _ hw place)

/-- Every plan of a compiler is guarded. -/
theorem guarded_of_plans {p : Plan} (h : k.Plans q p) : p.Guarded :=
  fun place hplace => (placed_of_plans h place hplace).guarded

/-- In every statement that a compiler hands out, no subquery over related rows takes a name that is
needed inside, each is tied to the row right outside of it, and all columns in it are those of tables
that are there. -/
theorem guarded_of_handsOut (h : k.HandsOut q s) :
    ∃ p, k.Plans q p ∧ s.sql = (p.statement k.dialect).sql ∧ p.Guarded := by
  obtain ⟨p, hplans, hsql⟩ := exists_plans_of_handsOut h
  exact ⟨p, hplans, hsql, guarded_of_plans hplans⟩

/-- Categories, which stand in categories of their own kind. -/
def categories : Compiler :=
  { dialect := .postgres
    schema := ⟨[("Category", { name := "Category", table := "categories", relations := [("parts",
      { name := "parts", cardinality := .oneToMany, target := "Category",
        foreignKey := "whole_id" })] })]⟩ }

/-- Deletes the categories with a part that has no part of a name itself. -/
def deleteCategories : Query :=
  { model := "Category", action := .deleteMany
    arguments := { filter := some [("parts", .related .some [("parts", .related .none
      [("name", .literal (.text "a"))])])] } }

/-- All three occurrences of the one table go by different names. -/
theorem guarded_deleteCategories :
    ∃ s, categories.statement deleteCategories = .ok s ∧
      ∃ p, categories.Plans deleteCategories p ∧
        s.sql = (p.statement .postgres).sql ∧ p.Guarded :=
  ⟨_, rfl, guarded_of_handsOut (.statement rfl)⟩

end Compiler

end RelationalQuery
