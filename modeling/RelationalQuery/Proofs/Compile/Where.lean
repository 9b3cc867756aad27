import RelationalQuery.Proofs.Compile.FilterTruth
import RelationalQuery.Proofs.Compile.Joins
import RelationalQuery.Proofs.Compile.Standard

/-!
# The conditions of statements

Every statement that reads, updates or deletes rows has the filter of its query in one `WHERE`. What a
database makes of that text is what the filter means for the row, if the names of every `FROM` in it
are different. If they are not, the database refuses the statement: `FROM` introduces a join table
under its own name even where that is the alias which has just been drawn for the target.

## Shape of the proof

`Filters` says how the clause of a plan comes from the filter: it is planned for the first table of
the `FROM`, with the names of all tables in sight, which are different. `filters_of_planned` reads
this off every kind of plan, and `means_conditions` does the rest.
-/

namespace RelationalQuery.Compile

open Sql Fragment

variable {c : Context} {q : Query} {d : Dialect}

/-- The tables that the conditions of a plan are about, and the conditions. Where rows are counted
off first, these are the conditions of the page. -/
def Plan.where? : Plan → Option (List Table × Clause)
  | .read r =>
    match r.select.base with
    | .table t =>
      some (t :: r.select.joins.flatMap (fun join => join.steps.map (·.1)), r.select.clause)
    | .page p _ => some ([p.table], p.clause)
  | .write (.update table _ clause _) => some ([⟨table, none⟩], clause)
  | .write (.delete table clause) => some ([⟨table, none⟩], clause)
  | .write _ => none

/-! ## Text -/

theorem infix_wrap (opening : String) (inner : Fragment) (closing : String) :
    inner <:+: wrap opening inner closing :=
  ⟨[.text opening], [.text closing], rfl⟩

/-- The conditions of a read stand in its text. -/
theorem where_infix_select (s : Select) : s.clause.whereFragment d <:+: s.fragment d := by
  rw [Select.fragment]
  iterate 3 refine List.infix_append_of_infix_left ?_
  exact List.infix_append_right

/-- Whatever stands in the text of the first table stands in that of a read. -/
theorem base_infix_select (s : Select) : s.base.fragment d <:+: s.fragment d := by
  rw [Select.fragment]
  iterate 5 refine List.infix_append_of_infix_left ?_
  exact List.infix_append_right

/-- The conditions of a page stand in its text. -/
theorem where_infix_page (p : Page) : p.clause.whereFragment d <:+: p.fragment d := by
  rw [Page.fragment]
  iterate 2 refine List.infix_append_of_infix_left ?_
  exact List.infix_append_right

/-- The conditions of a plan stand in its text. -/
theorem where_infix_plan {p : Plan} {tables : List Table} {clause : Clause}
    (h : p.where? = some (tables, clause)) : clause.whereFragment d <:+: p.fragment d := by
  cases p with
  | read r =>
    rw [Plan.where?] at h
    cases hbase : r.select.base with
    | table t =>
      rw [hbase] at h
      obtain ⟨-, rfl⟩ := Prod.mk.inj (Option.some.inj h)
      exact where_infix_select r.select
    | page p aliasName =>
      rw [hbase] at h
      obtain ⟨-, rfl⟩ := Prod.mk.inj (Option.some.inj h)
      refine List.IsInfix.trans ?_ (base_infix_select r.select)
      rw [hbase, Base.fragment]
      iterate 2 refine List.infix_append_of_infix_left ?_
      exact (where_infix_page p).trans (infix_wrap "(" _ ")")
  | write w =>
    have hbody : w.body d <:+: w.fragment d := List.infix_append_left
    refine List.IsInfix.trans ?_ hbody
    cases w with
    | update table assignments clause returned =>
      obtain ⟨-, rfl⟩ := Prod.mk.inj (Option.some.inj h)
      exact List.infix_append_right
    | delete table clause =>
      obtain ⟨-, rfl⟩ := Prod.mk.inj (Option.some.inj h)
      exact List.infix_append_right
    | insert => cases h
    | insertRows => cases h
    | upsert => cases h
    | connect => cases h
    | disconnect => cases h

/-! ## Filters of plans -/

/-- How a clause comes from a filter: it is planned for the rows of a model, whose table is the first
one of a `FROM` with different names, and the only one if it has no alias. -/
inductive Filters (c : Context) (model : String) (filter : Option Filter) :
    List Table → Clause → Prop
  | intro {row : Occurrence} {others : List Table} {clause : Clause}
    (model_row : row.model = model) (table : row.table.name = c.schema.tableOf row.model)
    (nodup : ((row.table :: others).map Table.reference).Nodup)
    (alone : row.table.aliasName = none → others = [])
    (planned : optionalClause c row ((row.table :: others).map Table.reference) filter =
      .ok clause) : Filters c model filter (row.table :: others) clause

/-- A filter that is planned for a table alone. -/
theorem Filters.plain {model : String} {filter : Option Filter} {clause : Clause}
    (h : optionalClause c (.plain c model) [(Occurrence.plain c model).name] filter = .ok clause) :
    Filters c model filter [(Occurrence.plain c model).table] clause :=
  .intro rfl rfl (by simp) (fun _ => rfl) h

/-- A page holds the conditions of the filter. -/
theorem filters_of_planPage {take : Option Int64} {page : Page}
    (h : planPage c q.model q.arguments take = .ok page) :
    Filters c q.model q.arguments.filter [page.table] page.clause := by
  rw [planPage, bind_eq_ok_iff] at h
  obtain ⟨clause, hclause, h⟩ := h
  obtain rfl := Except.ok.inj h
  exact .plain hclause

/-- Where counts and aggregates take their rows from, the conditions are those of the filter. -/
theorem filters_of_planSource {source : Base × Clause} {select : Select} {computed : List String}
    {inclusions : List Inclusion} (h : planSource c q = .ok source)
    (hbase : select.base = source.1) (hclause : select.clause = source.2)
    (hjoins : select.joins = []) {tables : List Table} {clause : Clause}
    (hwhere : (Plan.read ⟨select, computed, inclusions⟩).where? = some (tables, clause)) :
    Filters c q.model q.arguments.filter tables clause := by
  rw [planSource] at h
  rw [Plan.where?] at hwhere
  dsimp only at hwhere
  split at h
  · rw [bind_eq_ok_iff] at h
    obtain ⟨page, hpage, h⟩ := h
    obtain rfl := Except.ok.inj h
    rw [hbase] at hwhere
    obtain ⟨rfl, rfl⟩ := Prod.mk.inj (Option.some.inj hwhere)
    exact filters_of_planPage hpage
  · dsimp only at h
    rw [bind_eq_ok_iff] at h
    obtain ⟨planned, hplanned, h⟩ := h
    obtain rfl := Except.ok.inj h
    rw [hbase, hclause, hjoins] at hwhere
    obtain ⟨rfl, rfl⟩ := Prod.mk.inj (Option.some.inj hwhere)
    exact .plain hplanned

/-- The joins of a read that finds rows and its own table have different names, and a read without
an alias has no joins. -/
theorem nodup_findVisible {joins : List PlannedJoin}
    (h : planJoins c (findBase c q) (q.selection.getD {}) = .ok joins) :
    (findVisible c q joins).Nodup ∧ ((findBase c q).table.aliasName = none → joins = []) := by
  obtain rfl := eq_number_of_planJoins h
  rcases findBase_cases c q with hbase | ⟨-, hforest⟩
  · rw [findVisible, hbase]
    exact ⟨nodup_visible _, fun hnone => absurd hnone (Option.some_ne_none _)⟩
  · rw [findVisible, model_findBase, hforest, List.map_nil, number]
    exact ⟨by simp, fun _ => rfl⟩

/-- A read that finds rows has the conditions of the filter, joins or not. -/
theorem filters_of_planFind {r : Read} (h : planFind c q = .ok r) {tables : List Table}
    {clause : Clause} (hwhere : (Plan.read r).where? = some (tables, clause)) :
    Filters c q.model q.arguments.filter tables clause := by
  cases found_of_planFind h with
  | paged parts page_planned =>
    obtain ⟨rfl, rfl⟩ := Prod.mk.inj (Option.some.inj hwhere)
    exact filters_of_planPage page_planned
  | @direct joins computed joined _ parts clause_planned =>
    obtain ⟨rfl, rfl⟩ := Prod.mk.inj (Option.some.inj hwhere)
    obtain ⟨hnodup, halone⟩ := nodup_findVisible parts.planned
    -- the filter is told of the names that the rendered joins introduce
    have hvisible : findVisible c q joins = ((findBase c q).table :: joined.flatMap fun join =>
        join.steps.map (·.1)).map Table.reference := by
      rw [List.map_cons, names_mapM_renderJoin parts.rendered]
      rfl
    rw [hvisible] at clause_planned
    have hmodel := model_findBase c q
    refine .intro hmodel (hmodel.symm ▸ table_findBase c q) (hvisible ▸ hnodup) (fun hnone => ?_)
      clause_planned
    have hrendered := parts.rendered
    rw [halone hnone] at hrendered
    obtain rfl : [] = joined := Except.ok.inj hrendered
    rfl

/-- A read that counts rows has the conditions of the filter. -/
theorem filters_of_planCount {r : Read} (h : planCount c q = .ok r) {tables : List Table}
    {clause : Clause} (hwhere : (Plan.read r).where? = some (tables, clause)) :
    Filters c q.model q.arguments.filter tables clause := by
  obtain ⟨source, hsource, rfl⟩ := exists_of_planCount h
  exact filters_of_planSource hsource rfl rfl rfl hwhere

/-- A read that aggregates rows has the conditions of the filter. -/
theorem filters_of_planAggregate {filtered : Bool} {r : Read}
    (h : planAggregate c filtered q = .ok r) {tables : List Table} {clause : Clause}
    (hwhere : (Plan.read r).where? = some (tables, clause)) :
    Filters c q.model q.arguments.filter tables clause := by
  obtain ⟨row, items, source, -, hsource, rfl⟩ := exists_of_planAggregate h
  exact filters_of_planSource hsource rfl rfl rfl hwhere

/-- A read that aggregates rows in groups has the conditions of the filter. -/
theorem filters_of_planGroupBy {filtered : Bool} {r : Read}
    (h : planGroupBy c filtered q = .ok r) {tables : List Table} {clause : Clause}
    (hwhere : (Plan.read r).where? = some (tables, clause)) :
    Filters c q.model q.arguments.filter tables clause := by
  obtain ⟨aggregates, planned, -, hplanned, rfl⟩ := exists_of_planGroupBy h
  obtain ⟨rfl, rfl⟩ := Prod.mk.inj (Option.some.inj hwhere)
  exact .plain hplanned

/-- Creating a row takes no conditions. -/
theorem where?_of_planCreate {w : Sql.Write} (h : planCreate c q = .ok w) :
    (Plan.write w).where? = none := by
  obtain ⟨row, rfl⟩ := exists_of_planCreate h
  rfl

/-- Creating several rows takes no conditions. -/
theorem where?_of_planCreateMany {w : Sql.Write} (h : planCreateMany c q = .ok w) :
    (Plan.write w).where? = none := by
  obtain ⟨columns, rows, rfl⟩ := exists_of_planCreateMany h
  rfl

/-- An upsert takes no conditions: its filter only names the fields that rows may conflict in. -/
theorem where?_of_planUpsert {w : Sql.Write} (h : planUpsert c q = .ok w) :
    (Plan.write w).where? = none := by
  obtain ⟨row, conflict, changes, rfl⟩ := exists_of_planUpsert h
  rfl

/-- An update has the conditions of the filter. -/
theorem filters_of_planUpdate {returned : Bool} {w : Sql.Write}
    (h : planUpdate c q returned = .ok w) {tables : List Table} {clause : Clause}
    (hwhere : (Plan.write w).where? = some (tables, clause)) :
    Filters c q.model q.arguments.filter tables clause := by
  obtain ⟨assignments, planned, hplanned, rfl⟩ := exists_of_planUpdate h
  obtain ⟨rfl, rfl⟩ := Prod.mk.inj (Option.some.inj hwhere)
  exact .plain hplanned

/-- A delete has the conditions of the filter. -/
theorem filters_of_planDelete {w : Sql.Write} (h : planDelete c q = .ok w) {tables : List Table}
    {clause : Clause} (hwhere : (Plan.write w).where? = some (tables, clause)) :
    Filters c q.model q.arguments.filter tables clause := by
  obtain ⟨planned, hplanned, rfl⟩ := exists_of_planDelete h
  obtain ⟨rfl, rfl⟩ := Prod.mk.inj (Option.some.inj hwhere)
  exact .plain hplanned

/-- The conditions of a plan are those of the filter. -/
theorem filters_of_planned {filtered : Bool} {p : Plan} (h : Planned c filtered q p)
    {tables : List Table} {clause : Clause} (hwhere : p.where? = some (tables, clause)) :
    Filters c q.model q.arguments.filter tables clause := by
  -- one case for each planner, of which the inserting ones leave nothing to show
  have hnone (hw : p.where? = none) : Filters c q.model q.arguments.filter tables clause := by
    rw [hw] at hwhere
    cases hwhere
  cases h with
  | find h => exact filters_of_planFind h hwhere
  | count h => exact filters_of_planCount h hwhere
  | aggregate h => exact filters_of_planAggregate h hwhere
  | groupBy h => exact filters_of_planGroupBy h hwhere
  | create h => exact hnone (where?_of_planCreate h)
  | createMany h => exact hnone (where?_of_planCreateMany h)
  | update returned h => exact filters_of_planUpdate h hwhere
  | upsert h => exact hnone (where?_of_planUpsert h)
  | delete h => exact filters_of_planDelete h hwhere

/-! ## What a database answers -/

/-- The tables of a `FROM`, each at a row. -/
def frameOf (e : Engine) (tables : List Table) (rows : List StoredRow) : Frame :=
  List.zipWith (fun table row => ⟨e.heading table, row⟩) tables rows

/-- The names of a frame are those of its tables. -/
theorem headings_frameOf (e : Engine) {tables : List Table} {rows : List StoredRow}
    (h : rows.length = tables.length) :
    (frameOf e tables rows).headings = tables.map e.heading := by
  induction tables generalizing rows with
  | nil => rfl
  | cons table tables ih =>
    cases rows with
    | nil => cases h
    | cons row rows =>
      have hrest := ih (Nat.succ.inj h)
      show e.heading table :: (frameOf e tables rows).headings = _
      rw [hrest, List.map_cons]

/-- The clause of a filter is answered as the filter is meant, or refused. -/
theorem answer_of_filters {model : String} {filter : Option Filter} {tables : List Table}
    {clause : Clause} (h : Filters c model filter tables clause) (e : Engine)
    (hprovides : ∀ given, filter = some given → e.Provides c.schema model given)
    (cells : StoredRow) (others : List StoredRow) (hlength : others.length + 1 = tables.length) :
    clause.answer e [frameOf e tables (cells :: others)] =
      if clause.hasDistinctNames then some (e.optionalTruth c.schema model cells filter)
      else none := by
  cases h with
  | @intro row rest clause hmodel htable hnodup halone hplanned =>
  subst hmodel
  have hheadings : (frameOf e (row.table :: rest) (cells :: others)).headings =
      (row.table :: rest).map e.heading := headings_frameOf e hlength
  -- the row whose filter it is has the first place in the frame
  have hstands : StandsAt e c.schema row (frameOf e (row.table :: rest) (cells :: others)) cells := by
    refine ⟨⟨htable, ?_, ?_, fun hnone => ?_⟩, List.mem_cons_self⟩
    · rw [hheadings]
      exact List.mem_cons_self
    · rw [hheadings, List.map_map]
      exact hnodup
    · rw [hheadings, halone hnone]
      rfl
  have hmeans : Means e c.schema row
      (fun cells => e.optionalTruth c.schema row.model cells filter) clause := by
    cases filter with
    | none =>
      obtain rfl := Except.ok.inj hplanned
      exact .nil
    | some given =>
      rw [optionalClause, clauseOf] at hplanned
      obtain ⟨⟨planned, after⟩, hconditions, rfl⟩ := map_eq_ok_iff.mp hplanned
      exact (means_conditions _ given hconditions List.mem_cons_self (fun _ h => h)
        (hprovides given rfl)).1
  -- the only name that can be refused is one that a subquery introduces twice
  have hbound : clause.isBound e ([frameOf e (row.table :: rest) (cells :: others)].map
      Frame.headings) = clause.hasDistinctNames := hmeans.isBound _ _ hstands.stands
  rw [Clause.answer, hbound]
  by_cases hdistinct : clause.hasDistinctNames
  · rw [if_pos hdistinct, if_pos hdistinct, Clause.truth, hmeans.truth hdistinct _ _ cells hstands]
  · rw [if_neg hdistinct, if_neg hdistinct]

/-- The conditions of every statement that is compiled from a query mean what its filter means,
wherever the names of each `FROM` in them are different; elsewhere the statement is refused. -/
theorem answer_where {filtered : Bool} {p : Plan}
    (hplan : plan c filtered q = .ok p ∨ ∃ m, planMutation c filtered q = .ok m ∧ m.main = p)
    {tables : List Table} {clause : Clause} (hwhere : p.where? = some (tables, clause)) (e : Engine)
    (hprovides : ∀ given, q.arguments.filter = some given → e.Provides c.schema q.model given)
    (cells : StoredRow) (others : List StoredRow) (hlength : others.length + 1 = tables.length) :
    clause.whereFragment e.dialect <:+: p.fragment e.dialect ∧
      clause.answer e [frameOf e tables (cells :: others)] =
        if clause.hasDistinctNames then
          some (e.optionalTruth c.schema q.model cells q.arguments.filter)
        else none := by
  refine ⟨where_infix_plan hwhere, ?_⟩
  have hfilters : Filters c q.model q.arguments.filter tables clause := by
    rcases hplan with hplan | ⟨m, hplan, rfl⟩
    · exact filters_of_planned (planned_of_plan hplan) hwhere
    · obtain ⟨q', hplanned, hmodel, hfilter⟩ := planned_of_planMutation hplan
      rw [← hmodel, ← hfilter]
      exact filters_of_planned hplanned hwhere
  exact answer_of_filters hfilters e hprovides cells others hlength

/-! ## A join table that is named like an alias -/

/-- Users and their posts over a join table. -/
def userPosts (joinTable : String) : Context :=
  { schema := ⟨[("User", { name := "User", table := "users", relations := [("posts",
      { name := "posts", cardinality := .manyToMany, target := "Post",
        joinTable := some joinTable })] }),
    ("Post", { name := "Post", table := "posts" })]⟩ }

/-- Deletes the users that have posts. -/
def deleteAuthors : Query :=
  { model := "User", action := .deleteMany
    arguments := { filter := some [("posts", .related .some [])] } }

/-- A database in which each table has one row, with the same value in all columns, and every
comparison of such values holds. -/
def oneOfEach (joinTable : String) : Engine where
  dialect := .postgres
  tables name :=
    { columns := if name = joinTable then ["A", "B"] else ["id"]
      rows := [fun _ => .bool true] }
  holds _ _ _ := true

/-- The database has all columns that the filter and its relation name. -/
theorem provides_oneOfEach (given : Filter) (h : deleteAuthors.arguments.filter = some given)
    {joinTable : String} (hname : joinTable = "user_posts" ∨ joinTable = "sub_posts") :
    (oneOfEach joinTable).Provides (userPosts joinTable).schema "User" given := by
  obtain rfl := Option.some.inj h
  refine ⟨fun relation hrelation => ?_, trivial⟩
  obtain rfl := Option.some.inj hrelation
  rcases hname with rfl | rfl
  · exact ⟨⟨by decide, by decide, by decide, by decide⟩, trivial⟩
  · exact ⟨⟨by decide, by decide, by decide, by decide⟩, trivial⟩

/-- Where the join table has a name of its own, the filter is met by a user with a post. -/
theorem answer_where_userPosts :
    ∃ p tables clause, plan (userPosts "user_posts") true deleteAuthors = .ok p ∧
      p.where? = some (tables, clause) ∧
      clause.answer (oneOfEach "user_posts")
        [frameOf (oneOfEach "user_posts") tables [fun _ => .bool true]] = some .yes := by
  have hplan : plan (userPosts "user_posts") true deleteAuthors = .ok _ := rfl
  have hanswer := (answer_where (Or.inl hplan) rfl (oneOfEach "user_posts")
    (fun given h => provides_oneOfEach given h (Or.inl rfl)) (fun _ => .bool true) [] rfl).2
  exact ⟨_, _, _, rfl, rfl, hanswer⟩

/-- Where the join table is named as the alias of its target, the same statement is refused, though
the database has all columns and the filter is met just as well. -/
theorem answer_where_alias :
    ∃ p tables clause, plan (userPosts "sub_posts") true deleteAuthors = .ok p ∧
      p.where? = some (tables, clause) ∧
      (∀ given, deleteAuthors.arguments.filter = some given →
        (oneOfEach "sub_posts").Provides (userPosts "sub_posts").schema "User" given) ∧
      clause.answer (oneOfEach "sub_posts")
        [frameOf (oneOfEach "sub_posts") tables [fun _ => .bool true]] = none ∧
      (oneOfEach "sub_posts").optionalTruth (userPosts "sub_posts").schema "User"
        (fun _ => .bool true) deleteAuthors.arguments.filter = .yes :=
  ⟨_, _, _, rfl, rfl, fun given h => provides_oneOfEach given h (Or.inr rfl), rfl, rfl⟩

end RelationalQuery.Compile
