import Mathlib.Data.List.Nodup
import RelationalQuery.Proofs.Compile.Capture
import RelationalQuery.Proofs.Compile.Distinct
import RelationalQuery.Proofs.Compile.Nulls

/-!
# Names in reads

A read introduces names in its own `FROM`, in those of its subqueries over related rows, and in
those of its computed fields, which refer to the queried row by the alias of its table.
`namesApart_iff` says when all of them are told apart. The names of its own `FROM` are, as they are
numbered. But a join table may have the very name that is drawn for the target beside it; and the
table of a computed field always goes by its own name, which may be the alias of the queried table
and then hides it.

## Shape of the proof

Conditions are those of filters wherever they stand (`Placed`), and the subqueries in these are
introduced for relations (`Introduced`). What a computed field refers to is looked up in two scopes,
of which the inner one has a single name.
-/

namespace RelationalQuery

open Sql Compile

/-! ## References of computed fields -/

/-- The field of the row outside that a correlation is with. -/
def Correlation.field? : Correlation → Option String
  | field name => some name
  | value _ => none

/-- The fields of the row outside that a computed field refers to. -/
def ComputedField.references (field : ComputedField) : List String :=
  field.correlations.filterMap fun entry => entry.2.field?

namespace Sql

/-- The column of the row outside that a condition refers to. -/
def Match.outer? : Match → Option Column
  | outer _ other => some other
  | value _ _ => none
  | null _ => none

namespace ScalarQuery

variable {q : ScalarQuery} {name : String}

/-- The columns of the row outside that a scalar query refers to. -/
def references (q : ScalarQuery) : List Column := q.conditions.filterMap Match.outer?

/-- Whether a scalar query refers to the row that goes by a name outside of it: what it refers to has
the value of that row, at whatever row of its own table it is evaluated. -/
def RefersTo (q : ScalarQuery) (name : String) : Prop :=
  ∀ (e : Engine) (cells : StoredRow) (frame : Frame) (row : Binding),
    (frame.headings.map Heading.name).Nodup → row ∈ frame → row.heading.name = name →
    ∀ column ∈ q.references,
      column.value [[⟨e.heading ⟨q.table, none⟩, cells⟩], frame] = row.row column.name

/-- References that are qualified by a name are to the row of that name, unless the table of the query
has the same name and is found first. -/
theorem refersTo_iff (hname : ∀ column ∈ q.references, column.table = some name) :
    q.RefersTo name ↔ q.references = [] ∨ q.table ≠ name := by
  constructor
  · intro hrefers
    by_contra hneither
    obtain ⟨hsome, hsame⟩ := not_or.mp hneither
    obtain ⟨⟨table, field⟩, hcolumn⟩ := List.exists_mem_of_ne_nil _ hsome
    obtain rfl : table = some name := hname _ hcolumn
    -- two rows that differ in every column
    let e : Engine := ⟨.postgres, fun _ => ⟨[], []⟩, fun _ _ _ => true⟩
    let inner : Binding := ⟨e.heading ⟨q.table, none⟩, fun _ => .bool true⟩
    let outer : Binding := ⟨⟨name, []⟩, fun _ => .bool false⟩
    have halone (row : Binding) : ((Frame.headings [row]).map Heading.name).Nodup :=
      List.nodup_singleton _
    have houter := hrefers e inner.row [outer] outer (halone outer) List.mem_cons_self rfl _ hcolumn
    have hinner : Column.value [[inner], [outer]] ⟨some inner.heading.name, field⟩ = .bool true :=
      value_qualified (halone inner) List.mem_cons_self field
    have hheading : inner.heading.name = name := not_not.mp hsame
    rw [hheading, houter] at hinner
    cases hinner
  · rintro (hnone | hapart) e cells frame row hnodup hrow rfl ⟨table, field⟩ hcolumn
    · rw [hnone] at hcolumn
      exact absurd hcolumn List.not_mem_nil
    · obtain rfl : table = some row.heading.name := hname _ hcolumn
      rw [value_skip, value_qualified hnodup hrow field]
      exact fun hmem => hapart (List.mem_singleton.mp hmem).symm

end ScalarQuery

/-- What the subqueries over related rows read, in all conditions of a read. -/
def Select.sources (s : Select) : List Source :=
  s.places.flatMap fun place => Condition.allSources place.2

end Sql

namespace Compile

variable {c : Context} {filtered : Bool} {q : Query} {r : Read}

/-- Whether a scalar query has the table of a computed field, and refers to the columns of the fields
that this refers to, in the queried row. -/
structure Computes (c : Context) (q : Query) (field : ComputedField) (query : ScalarQuery) :
    Prop where
  table : query.table = readTable c field.table
  references : query.references = field.references.map fun name =>
    ⟨some baseAlias, c.schema.columnOf q.model name⟩

/-- The correlations of a computed field with fields are references. -/
theorem references_of_conditions {base : Occurrence} {column : String → Column}
    {field : ComputedField} {query : ScalarQuery}
    (h : query.conditions = field.correlations.map (correlated c base column)) :
    query.references =
      field.references.map fun name => base.outer (c.schema.columnOf base.model name) := by
  rw [ScalarQuery.references, h, List.filterMap_map, ComputedField.references, List.map_filterMap]
  refine List.filterMap_congr fun entry _ => ?_
  obtain ⟨key, correlation⟩ := entry
  cases correlation with
  | field name => rfl
  | value v => cases v <;> rfl

/-- Where fields are computed, the queried table goes by its alias. -/
theorem findBase_of_computed (h : q.arguments.computed ≠ []) :
    findBase c q = .aliased c q.model baseAlias := by
  have hsome : (!q.arguments.computed.isEmpty) = true := by
    rw [Bool.not_eq_true', List.isEmpty_eq_false_iff]
    exact h
  rw [findBase, hsome, Bool.or_true, if_pos rfl]

/-- A computed field is planned as a scalar query. -/
theorem exists_computes {aliasName : String} {field : ComputedField} {item : Item}
    (hfield : (aliasName, field) ∈ q.arguments.computed)
    (h : planComputed c (findBase c q) aliasName field = .ok item) :
    ∃ query, item = .scalar query aliasName ∧ Computes c q field query := by
  obtain ⟨query, rfl, htable, hconditions⟩ := exists_correlated_of_planComputed h
  refine ⟨query, rfl, htable, ?_⟩
  rw [references_of_conditions hconditions, findBase_of_computed (List.ne_nil_of_mem hfield)]
  rfl

/-! ## Items of reads -/

theorem scalar_notMem_baseItems (base : Occurrence) (query : ScalarQuery) (aliasName : String) :
    .scalar query aliasName ∉ baseItems c base q := by
  rw [baseItems]
  split
  · simp
  · split <;> simp

theorem scalar_notMem_joinedItems (join : PlannedJoin) (query : ScalarQuery) (aliasName : String) :
    .scalar query aliasName ∉ joinedItems join := by
  rw [joinedItems]
  split <;> simp

theorem scalar_notMem_plainAggregates (model : String) (spec : Aggregates) (query : ScalarQuery)
    (aliasName : String) : .scalar query aliasName ∉ plainAggregates c model spec := by
  cases hcount : spec.count <;> simp [plainAggregates, hcount, aggregateItem]

/-- Nothing that is aggregated is a scalar query. -/
theorem scalar_notMem_planAggregates {row : Occurrence} {spec : Aggregates} {items : List Item}
    (h : planAggregates c filtered row spec = .ok items) (query : ScalarQuery) (aliasName : String) :
    .scalar query aliasName ∉ items := by
  intro hitem
  rcases mem_planAggregates h hitem with hplain | ⟨-, counted, -, clause, -, hcount⟩
  · exact scalar_notMem_plainAggregates row.model spec query aliasName hplain
  · cases hcount

/-- The scalar queries of a read that finds rows are those of the computed fields. -/
theorem exists_computes_of_planFind (h : planFind c q = .ok r) {query : ScalarQuery}
    {aliasName : String} (hitem : .scalar query aliasName ∈ r.select.items) :
    ∃ field, (aliasName, field) ∈ q.arguments.computed ∧ Computes c q field query := by
  obtain ⟨joins, computed, joined, parts, hitems, -⟩ := exists_of_planFind h
  rw [hitems, findItems, List.mem_append, List.mem_append, List.mem_flatMap] at hitem
  rcases hitem with (hown | ⟨join, -, hjoined⟩) | hcomputed
  · exact absurd hown (scalar_notMem_baseItems _ query aliasName)
  · exact absurd hjoined (scalar_notMem_joinedItems join query aliasName)
  · obtain ⟨⟨key, field⟩, hfield, hplanned⟩ := exists_of_mem_mapM parts.fields hcomputed
    obtain ⟨planned, heq, hcomputes⟩ := exists_computes hfield hplanned
    obtain ⟨rfl, rfl⟩ := Item.scalar.inj heq
    exact ⟨field, hfield, hcomputes⟩

/-- All computed fields have scalar queries in a read that finds rows. -/
theorem exists_scalar_of_planFind (h : planFind c q = .ok r) {aliasName : String}
    {field : ComputedField} (hfield : (aliasName, field) ∈ q.arguments.computed) :
    ∃ query, .scalar query aliasName ∈ r.select.items ∧ Computes c q field query := by
  obtain ⟨joins, computed, joined, parts, hitems, -⟩ := exists_of_planFind h
  obtain ⟨item, hitem, hplanned⟩ := ok_of_mem_mapM parts.fields hfield
  obtain ⟨query, rfl, hcomputes⟩ := exists_computes hfield hplanned
  refine ⟨query, ?_, hcomputes⟩
  rw [hitems, findItems]
  exact List.mem_append_right _ hitem

/-- The tables of a read that finds rows have different names, of which the first is that of the
queried row. -/
theorem nodup_names_of_planFind (h : planFind c q = .ok r) :
    r.select.names.Nodup ∧ r.select.base.reference = (findBase c q).name := by
  cases found_of_planFind h with
  | paged parts page_planned =>
    have hvisible := (nodup_findVisible parts.planned).1
    rw [parts.visible_eq] at hvisible
    exact ⟨hvisible, rfl⟩
  | direct parts clause_planned =>
    have hvisible := (nodup_findVisible parts.planned).1
    rw [parts.visible_eq] at hvisible
    exact ⟨hvisible, rfl⟩

/-- A read that counts or aggregates rows has one table, and computes no fields. -/
theorem alone_of_counted
    (h : planCount c q = .ok r ∨ planAggregate c filtered q = .ok r ∨
      planGroupBy c filtered q = .ok r) :
    r.select.joins = [] ∧ ∀ query aliasName, .scalar query aliasName ∉ r.select.items := by
  rcases h with h | h | h
  · obtain ⟨source, -, rfl⟩ := exists_of_planCount h
    exact ⟨rfl, fun query aliasName hitem => by cases List.mem_singleton.mp hitem⟩
  · obtain ⟨row, items, source, hitems, -, rfl⟩ := exists_of_planAggregate h
    exact ⟨rfl, scalar_notMem_planAggregates hitems⟩
  · obtain ⟨aggregates, clause, haggregates, -, rfl⟩ := exists_of_planGroupBy h
    refine ⟨rfl, fun query aliasName hitem => ?_⟩
    rcases List.mem_append.mp hitem with hgroup | haggregate
    · obtain ⟨column, -, hcolumn⟩ := List.mem_map.mp hgroup
      cases hcolumn
    · exact scalar_notMem_planAggregates haggregates query aliasName haggregate

/-! ## What names stand for -/

/-- Whether the names in a read are told apart: those of its own tables, those of the tables of each
subquery, and those of the tables of computed fields from that of the queried one. -/
structure Read.NamesApart (r : Read) : Prop where
  tables : r.select.names.Nodup
  sources : ∀ source ∈ r.select.sources, source.names.Nodup
  computed : ∀ query aliasName, .scalar query aliasName ∈ r.select.items →
    query.table ≠ r.select.base.reference

/-- Whether a query finds rows with a computed field whose table is named like the alias of the
queried one. -/
def HidesBase (c : Context) (q : Query) : Prop :=
  q.action.isRead = true ∧ ∃ entry ∈ q.arguments.computed, readTable c entry.2.table = baseAlias

/-- Where the names in the read of a query come from. -/
structure Resolves (c : Context) (q : Query) (r : Read) : Prop where
  tables : r.select.names.Nodup
  sources : ∀ source ∈ r.select.sources, Introduced c source
  /-- Scalar queries are those of computed fields, and refer to the queried row by its alias. -/
  computed : ∀ query aliasName, .scalar query aliasName ∈ r.select.items →
    q.action.isRead = true ∧ r.select.base.reference = baseAlias ∧
      ∃ field, (aliasName, field) ∈ q.arguments.computed ∧ Computes c q field query
  /-- All computed fields have scalar queries. -/
  complete : q.action.isRead = true → ∀ aliasName field, (aliasName, field) ∈ q.arguments.computed →
    ∃ query, .scalar query aliasName ∈ r.select.items ∧ Computes c q field query

namespace Resolves

/-- The names are told apart but for two ways in which they may not be. -/
theorem apart_iff (h : Resolves c q r) :
    r.NamesApart ↔
      (∀ source ∈ r.select.sources, ¬ c.schema.NamesItself source) ∧ ¬ HidesBase c q := by
  constructor
  · intro hapart
    refine ⟨fun source hsource => ?_, ?_⟩
    · exact (h.sources source hsource).nodup_iff.mp (hapart.sources source hsource)
    · rintro ⟨hfind, ⟨aliasName, field⟩, hfield, htable⟩
      obtain ⟨query, hitem, hcomputes⟩ := h.complete hfind aliasName field hfield
      obtain ⟨-, hbase, -⟩ := h.computed query aliasName hitem
      refine hapart.computed query aliasName hitem ?_
      rw [hcomputes.table, htable, hbase]
  · rintro ⟨hsources, hhides⟩
    refine ⟨h.tables, fun source hsource => ?_, fun query aliasName hitem hsame => ?_⟩
    · exact (h.sources source hsource).nodup_iff.mpr (hsources source hsource)
    · obtain ⟨hfind, hbase, field, hfield, hcomputes⟩ := h.computed query aliasName hitem
      refine hhides ⟨hfind, (aliasName, field), hfield, ?_⟩
      rw [← hcomputes.table, hsame, hbase]

/-- What a computed field refers to is the queried row, unless its own table hides that. -/
theorem refersTo_iff (h : Resolves c q r) {query : ScalarQuery} {aliasName : String}
    (hitem : .scalar query aliasName ∈ r.select.items) :
    query.RefersTo r.select.base.reference ↔
      query.references = [] ∨ query.table ≠ r.select.base.reference := by
  obtain ⟨-, hbase, field, -, hcomputes⟩ := h.computed query aliasName hitem
  refine ScalarQuery.refersTo_iff fun column hcolumn => ?_
  rw [hcomputes.references] at hcolumn
  obtain ⟨name, -, rfl⟩ := List.mem_map.mp hcolumn
  rw [hbase]

end Resolves

/-- The names in every read come from the queried table and its joins, from relations and from
computed fields. -/
theorem exists_resolves_of_plan {p : Plan} (h : plan c filtered q = .ok p)
    (hread : q.action.isWrite = false) : ∃ r, p = .read r ∧ Resolves c q r := by
  have hsources {r : Read} (hp : p = .read r) : ∀ source ∈ r.select.sources, Introduced c source := by
    subst hp
    intro source hsource
    obtain ⟨place, hplace, hsource⟩ := List.mem_flatMap.mp hsource
    cases placed_of_planned (planned_of_plan h) place hplace with
    | filter seen planned => exact introduced_optionalClause planned source hsource
  by_cases hfind : q.action.isRead = true
  · obtain ⟨r, hr, hp⟩ := find_of_plan h hfind
    obtain ⟨hnames, hbase⟩ := nodup_names_of_planFind hr
    refine ⟨r, hp, hnames, hsources hp, fun query aliasName hitem => ?_,
      fun _ aliasName field => exists_scalar_of_planFind hr⟩
    obtain ⟨field, hfield, hcomputes⟩ := exists_computes_of_planFind hr hitem
    rw [hbase, findBase_of_computed (List.ne_nil_of_mem hfield)]
    exact ⟨hfind, rfl, field, hfield, hcomputes⟩
  · obtain ⟨r, hp, hcounted⟩ := counted_of_plan h (Bool.eq_false_iff.mpr hfind) hread
    obtain ⟨hjoins, hitems⟩ := alone_of_counted hcounted
    have hnames : r.select.names.Nodup := by
      rw [Select.names, hjoins]
      exact List.nodup_singleton _
    refine ⟨r, hp, hnames, hsources hp, fun query aliasName hitem => ?_, fun hsome => ?_⟩
    · exact absurd hitem (hitems query aliasName)
    · exact absurd hsome hfind

end Compile

namespace Compiler

open Compile

variable {k : Compiler} {q : Query} {s : Statement}

/-- The tables of every read that is compiled have different names. The names of all others in it are
told apart as well, if and only if no join table goes by the name of its target and no computed field
reads a table that is named like the alias of the queried one; what a field refers to is the queried
row unless this is so. -/
theorem namesApart_iff (hread : q.action.isWrite = false) (h : k.statement q = .ok s) :
    ∃ r, plan k.context (k.dialect.has .filteredAggregates) q = .ok (.read r) ∧
      s = r.statement k.dialect ∧ Resolves k.context q r ∧
      (∀ query aliasName, .scalar query aliasName ∈ r.select.items →
        (query.RefersTo r.select.base.reference ↔
          query.references = [] ∨ query.table ≠ r.select.base.reference)) ∧
      (r.NamesApart ↔ (∀ source ∈ r.select.sources, ¬ k.schema.NamesItself source) ∧
        ¬ HidesBase k.context q) ∧
      (k.schema.JoinTablesApart → ¬ HidesBase k.context q → r.NamesApart) := by
  obtain ⟨p, hplan, rfl⟩ := map_eq_ok_iff.mp h
  obtain ⟨r, rfl, hresolves⟩ := exists_resolves_of_plan hplan hread
  have hiff := hresolves.apart_iff
  refine ⟨r, hplan, rfl, hresolves, fun query aliasName => hresolves.refersTo_iff, hiff, ?_⟩
  exact fun hapart hhides => hiff.mpr ⟨fun source _ => hapart.not_namesItself, hhides⟩

/-- Keepers and the pets that they own, which are stored in a table of the given name. -/
def shelter (table : String) : Compiler :=
  { dialect := .postgres
    schema := ⟨[
      ("Keeper",
        { name := "Keeper", table := "keepers"
          fields := [("id", { name := "id", column := "id", type := .int, isId := true })]
          relations := [("pets", { name := "pets", cardinality := .oneToMany, target := "Pet"
                                   foreignKey := "ownerId" })] }),
      ("Pet",
        { name := "Pet", table := table
          fields := [("ownerId", { name := "ownerId", column := "owner_id", type := .int })] })]⟩ }

/-- Finds the keepers that own pets, each with the number of these. -/
def findOwners : Query where
  model := "Keeper"
  action := .findMany
  arguments :=
    { filter := some [("pets", .related .some [])]
      computed := [("owned", { op := .count, table := "Pet"
                               correlations := [("ownerId", .field "id")] })] }

set_option maxRecDepth 4000 in
/-- Where pets have a table of their own, they are counted for the keeper that is found. -/
theorem namesApart_findOwners :
    ∃ s r, (shelter "pets").statement findOwners = .ok s ∧
      plan (shelter "pets").context true findOwners = .ok (.read r) ∧
      s.sql = "SELECT \"t0\".*, " ++
        "(SELECT COUNT(*) FROM \"pets\" WHERE \"owner_id\" = \"t0\".\"id\") AS \"owned\" " ++
        "FROM \"keepers\" AS \"t0\" " ++
        "WHERE EXISTS (SELECT 1 FROM \"pets\" WHERE \"owner_id\" = \"t0\".\"id\")" ∧
      r.NamesApart := by
  have hsql : Statement.sql <$> (shelter "pets").statement findOwners = .ok
      ("SELECT \"t0\".*, " ++
        "(SELECT COUNT(*) FROM \"pets\" WHERE \"owner_id\" = \"t0\".\"id\") AS \"owned\" " ++
        "FROM \"keepers\" AS \"t0\" " ++
        "WHERE EXISTS (SELECT 1 FROM \"pets\" WHERE \"owner_id\" = \"t0\".\"id\")") := by
    with_unfolding_all rfl
  obtain ⟨s, hs, htext⟩ := map_eq_ok_iff.mp hsql
  obtain ⟨r, hplan, -, -, -, -, hapart⟩ := namesApart_iff rfl hs
  refine ⟨s, r, hs, hplan, htext, hapart (Schema.joinTablesApart_of_declared (by decide)) ?_⟩
  rintro ⟨-, entry, hentry, htable⟩
  obtain rfl := List.mem_singleton.mp hentry
  exact absurd htable (by decide)

/-- The scalar query that counts the pets of a keeper. -/
def ownedPets (table : String) : ScalarQuery where
  projection := .rows
  table := table
  conditions := [.outer ⟨none, "owner_id"⟩ ⟨some "t0", "id"⟩]
  orderBy := []
  firstOnly := false

/-- Where the table of pets is named like the alias of the queried one, the id that they are counted
by is not that of the keeper. -/
theorem statement_findOwners_t0 :
    ∃ s r, (shelter "t0").statement findOwners = .ok s ∧
      plan (shelter "t0").context true findOwners = .ok (.read r) ∧
      s = r.statement .postgres ∧
      r.select.items = [.everythingOf "t0", .scalar (ownedPets "t0") "owned"] ∧
      r.select.base.reference = "t0" ∧ ¬ (ownedPets "t0").RefersTo "t0" := by
  have hparts : (fun r : Read => (r.select.items, r.select.base.reference)) <$>
      planFind (shelter "t0").context findOwners =
      .ok ([.everythingOf "t0", .scalar (ownedPets "t0") "owned"], "t0") := by with_unfolding_all rfl
  obtain ⟨r, hr, hread⟩ := map_eq_ok_iff.mp hparts
  obtain ⟨hitems, hbase⟩ := Prod.mk.inj hread
  have hplan : plan (shelter "t0").context true findOwners = .ok (.read r) := by
    have hfind : plan (shelter "t0").context true findOwners =
      Plan.read <$> planFind (shelter "t0").context findOwners := rfl
    rw [hfind, hr]
    rfl
  refine ⟨r.statement .postgres, r, map_eq_ok_iff.mpr ⟨_, hplan, rfl⟩, hplan, rfl, hitems, hbase, ?_⟩
  have hname : ∀ column ∈ (ownedPets "t0").references, column.table = some "t0" :=
    List.forall_mem_singleton.mpr rfl
  rw [ScalarQuery.refersTo_iff hname]
  decide

end Compiler

end RelationalQuery
