import RelationalQuery.Compile.Mutation
import RelationalQuery.Proofs.Result

/-!
# What a plan can be

`Planned` lists the kinds of plans that queries are compiled to, each with the function that planned
it. `planned_of_plan` and `planned_of_planMutation` say that there are no others, so that a property
of all plans has one case for each kind.

## Shape of the parts

What a plan is made of is said once for each planner: `Found` for the reads that find rows,
`exists_of_planCount` and its like for the others, `Mutated` for mutations. Whatever is proved of
plans is proved of these parts, and does not look into the planners again.
-/

namespace RelationalQuery.Compile

variable {c : Context} {filtered : Bool} {q : Query}

/-! ## Reads -/

/-- The queried model as it stands in a read that finds rows. It has an alias where there are other
tables beside it. -/
def findBase (c : Context) (q : Query) : Occurrence :=
  if !(forest c.schema q.model (q.selection.getD {})).isEmpty || !q.arguments.computed.isEmpty then
    .aliased c q.model baseAlias
  else .plain c q.model

theorem model_findBase (c : Context) (q : Query) : (findBase c q).model = q.model := by
  rw [findBase]
  split <;> rfl

/-- The queried model goes by its alias, or nothing is joined to it. -/
theorem findBase_cases (c : Context) (q : Query) :
    findBase c q = .aliased c q.model baseAlias ∨
      findBase c q = .plain c q.model ∧
        forest c.schema q.model (q.selection.getD {}) = [] := by
  rw [findBase]
  split
  · exact .inl rfl
  · next hothers =>
    rw [Bool.or_eq_true, not_or, Bool.not_eq_true', Bool.not_eq_false, List.isEmpty_iff] at hothers
    exact .inr ⟨rfl, hothers.1⟩

theorem table_findBase (c : Context) (q : Query) :
    (findBase c q).table.name = c.schema.tableOf q.model := by
  rw [findBase]
  split <;> rfl

/-- The names in sight of the filters of a read that finds rows. -/
def findVisible (c : Context) (q : Query) (joins : List PlannedJoin) : List String :=
  (findBase c q).name :: joins.flatMap PlannedJoin.names

/-- How many rows a read that finds rows may end with. -/
def findTake (q : Query) : Option Int64 := if q.action.isSingleRead then some 1 else q.arguments.take

/-- The items of a read that finds rows. -/
def findItems (c : Context) (q : Query) (joins : List PlannedJoin) (computed : List Sql.Item) :
    List Sql.Item :=
  baseItems c (findBase c q) q ++ joins.flatMap joinedItems ++ computed

/-- Whether a read that finds rows takes the page first: where it cuts off rows and joins lists to
them. -/
def pagesFirst (q : Query) (joins : List PlannedJoin) : Bool :=
  ((findTake q).isSome || q.arguments.skip.isSome) && joins.any (·.inclusion.isList)

/-- How a read that finds rows is planned: from the relations that are joined and the computed
fields, then with a page or without one. -/
theorem planFind_eq (c : Context) (q : Query) : planFind c q = (do
    let joins ← planJoins c (findBase c q) (q.selection.getD {})
    let computed ← q.arguments.computed.mapM fun field =>
      planComputed c (findBase c q) field.1 field.2
    if pagesFirst q joins then do
      let page ← planPage c q.model q.arguments (findTake q)
      let joined ← joins.mapM (renderJoin c (findVisible c q joins))
      return {
        select :=
          { items := findItems c q joins computed, base := .page page (findBase c q).name
            joins := joined
            orderBy := orderKeys ((findBase c q).field c) q.arguments.orderBy }
        computed := q.arguments.computed.keys
        inclusions := joins.map (·.inclusion) }
    else do
      let joined ← joins.mapM (renderJoin c (findVisible c q joins))
      let clause ← optionalClause c (findBase c q) (findVisible c q joins) q.arguments.filter
      return {
        select :=
          { items := findItems c q joins computed, base := .table (findBase c q).table
            joins := joined, clause
            orderBy := orderKeys ((findBase c q).field c) q.arguments.orderBy
            take := findTake q, skip := q.arguments.skip }
        computed := q.arguments.computed.keys
        inclusions := joins.map (·.inclusion) }) := rfl

/-- The parts of a read that finds rows, which are planned from the relations that are joined and
the computed fields. -/
structure FindParts (c : Context) (q : Query) (joins : List PlannedJoin)
    (computed : List Sql.Item) (joined : List Sql.Join) : Prop where
  planned : planJoins c (findBase c q) (q.selection.getD {}) = .ok joins
  fields : q.arguments.computed.mapM (fun field =>
    planComputed c (findBase c q) field.1 field.2) = .ok computed
  rendered : joins.mapM (renderJoin c (findVisible c q joins)) = .ok joined

/-- The reads that find rows. Where rows are cut off and lists are joined to them, the rows are those
of a page, which holds the conditions of the filter; otherwise these stand in the read itself. -/
inductive Found (c : Context) (q : Query) : Read → Prop
  | paged {joins : List PlannedJoin} {computed : List Sql.Item} {joined : List Sql.Join}
    {page : Sql.Page} (parts : FindParts c q joins computed joined)
    (page_planned : planPage c q.model q.arguments (findTake q) = .ok page) :
    Found c q
      { select :=
          { items := findItems c q joins computed, base := .page page (findBase c q).name
            joins := joined
            orderBy := orderKeys ((findBase c q).field c) q.arguments.orderBy }
        computed := q.arguments.computed.keys
        inclusions := joins.map (·.inclusion) }
  | direct {joins : List PlannedJoin} {computed : List Sql.Item} {joined : List Sql.Join}
    {clause : Sql.Clause} (parts : FindParts c q joins computed joined)
    (clause_planned : optionalClause c (findBase c q) (findVisible c q joins) q.arguments.filter =
      .ok clause) :
    Found c q
      { select :=
          { items := findItems c q joins computed, base := .table (findBase c q).table
            joins := joined, clause
            orderBy := orderKeys ((findBase c q).field c) q.arguments.orderBy
            take := findTake q, skip := q.arguments.skip }
        computed := q.arguments.computed.keys
        inclusions := joins.map (·.inclusion) }

/-- Every read that finds rows is one of these. -/
theorem found_of_planFind {r : Read} (h : planFind c q = .ok r) : Found c q r := by
  rw [planFind_eq, bind_eq_ok_iff] at h
  obtain ⟨joins, hplanned, h⟩ := h
  rw [bind_eq_ok_iff] at h
  obtain ⟨computed, hfields, h⟩ := h
  split at h
  · rw [bind_eq_ok_iff] at h
    obtain ⟨page, hpage, h⟩ := h
    rw [bind_eq_ok_iff] at h
    obtain ⟨joined, hrendered, h⟩ := h
    obtain rfl := Except.ok.inj h
    exact .paged ⟨hplanned, hfields, hrendered⟩ hpage
  · rw [bind_eq_ok_iff] at h
    obtain ⟨joined, hrendered, h⟩ := h
    rw [bind_eq_ok_iff] at h
    obtain ⟨clause, hclause, h⟩ := h
    obtain rfl := Except.ok.inj h
    exact .direct ⟨hplanned, hfields, hrendered⟩ hclause

/-- A read that counts rows. -/
theorem exists_of_planCount {r : Read} (h : planCount c q = .ok r) :
    ∃ source, planSource c q = .ok source ∧
      r = { select := { items := [.count], base := source.1, clause := source.2 } } := by
  rw [planCount, bind_eq_ok_iff] at h
  obtain ⟨source, hsource, h⟩ := h
  exact ⟨source, hsource, (Except.ok.inj h).symm⟩

/-- The rows that are aggregated: those of a page if rows are cut off, else those of the table. -/
def aggregatedRow (c : Context) (q : Query) : Occurrence :=
  if isPaginated q.arguments then .aliased c q.model pageAlias else .plain c q.model

/-- What is aggregated: plain aggregates, and filtered counts where the dialect has them. -/
theorem mem_planAggregates {row : Occurrence} {spec : Aggregates} {items : List Sql.Item}
    (h : planAggregates c filtered row spec = .ok items) {item : Sql.Item} (hitem : item ∈ items) :
    item ∈ plainAggregates c row.model spec ∨
      filtered = true ∧ ∃ counted ∈ spec.filtered, ∃ clause,
        clauseOf c row [row.name] counted.2 = .ok clause ∧
        item = .filteredCount clause counted.1 := by
  rw [planAggregates] at h
  dsimp only at h
  split at h
  · next hfiltered =>
    rw [bind_eq_ok_iff] at h
    obtain ⟨counts, hcounts, h⟩ := h
    obtain rfl := Except.ok.inj h
    rcases List.mem_append.mp hitem with hplain | hcount
    · exact .inl hplain
    · obtain ⟨counted, hcounted, hitem⟩ := exists_of_mem_mapM hcounts hcount
      rw [bind_eq_ok_iff] at hitem
      obtain ⟨clause, hclause, hitem⟩ := hitem
      obtain rfl := Except.ok.inj hitem
      exact .inr ⟨hfiltered, counted, hcounted, clause, hclause, rfl⟩
  · obtain rfl := Except.ok.inj h
    rw [List.append_nil] at hitem
    exact .inl hitem

/-- What a read aggregates, and where it takes the rows from. -/
theorem aggregates_of_planAggregate {r : Read} (h : planAggregate c filtered q = .ok r) :
    ∃ items source,
      planAggregates c filtered (aggregatedRow c q) (q.arguments.aggregates.getD {}) = .ok items ∧
      planSource c q = .ok source ∧
      r = { select := { items, base := source.1, clause := source.2 } } := by
  rw [planAggregate, bind_eq_ok_iff] at h
  obtain ⟨items, hitems, h⟩ := h
  extract_lets rest at h
  split at h
  · cases h
  · rw [show rest = _ from rfl, bind_eq_ok_iff] at h
    obtain ⟨source, hsource, h⟩ := h
    exact ⟨items, source, hitems, hsource, (Except.ok.inj h).symm⟩

/-- A read that aggregates rows, of the table or of a page. -/
theorem exists_of_planAggregate {r : Read} (h : planAggregate c filtered q = .ok r) :
    ∃ row items source, planAggregates c filtered row (q.arguments.aggregates.getD {}) = .ok items ∧
      planSource c q = .ok source ∧
      r = { select := { items, base := source.1, clause := source.2 } } :=
  ⟨aggregatedRow c q, aggregates_of_planAggregate h⟩

/-- A read that aggregates rows in groups. -/
theorem exists_of_planGroupBy {r : Read} (h : planGroupBy c filtered q = .ok r) :
    ∃ aggregates clause,
      planAggregates c filtered (.plain c q.model) (q.arguments.aggregates.getD {}) =
        .ok aggregates ∧
      optionalClause c (.plain c q.model) [(Occurrence.plain c q.model).name] q.arguments.filter =
        .ok clause ∧
      r = { select :=
        { items := (q.arguments.groupBy.map ((Occurrence.plain c q.model).field c)).map .column ++
            aggregates
          base := .table (Occurrence.plain c q.model).table, clause
          groupBy := q.arguments.groupBy.map ((Occurrence.plain c q.model).field c)
          orderBy := orderKeys ((Occurrence.plain c q.model).field c) q.arguments.orderBy
          take := q.arguments.take, skip := q.arguments.skip } } := by
  rw [planGroupBy] at h
  extract_lets row groups at h
  split at h
  · cases h
  · dsimp only at h
    rw [bind_eq_ok_iff] at h
    obtain ⟨aggregates, haggregates, h⟩ := h
    rw [bind_eq_ok_iff] at h
    obtain ⟨clause, hclause, h⟩ := h
    exact ⟨aggregates, clause, haggregates, hclause, (Except.ok.inj h).symm⟩

/-! ## Writes -/

/-- The insert of a row. -/
theorem exists_of_planCreate {w : Sql.Write} (h : planCreate c q = .ok w) :
    ∃ row, w = .insert (c.schema.tableOf q.model) row := by
  rw [planCreate] at h
  split at h
  · rw [bind_eq_ok_iff] at h
    obtain ⟨row, -, h⟩ := h
    exact ⟨row, (Except.ok.inj h).symm⟩
  · cases h
  · cases h

/-- The insert of several rows. -/
theorem exists_of_planCreateMany {w : Sql.Write} (h : planCreateMany c q = .ok w) :
    ∃ columns rows, w = .insertRows (c.schema.tableOf q.model) columns rows := by
  rw [planCreateMany] at h
  split at h
  · cases h
  · rw [bind_eq_ok_iff] at h
    obtain ⟨rows, -, h⟩ := h
    exact ⟨_, rows, (Except.ok.inj h).symm⟩

/-- The insert of a row that gives way to changes. -/
theorem exists_of_planUpsert {w : Sql.Write} (h : planUpsert c q = .ok w) :
    ∃ row conflict changes, w = .upsert (c.schema.tableOf q.model) row conflict changes := by
  rw [planUpsert] at h
  split at h
  · cases h
  · split at h
    · cases h
    · rw [bind_eq_ok_iff] at h
      obtain ⟨row, -, h⟩ := h
      extract_lets rest at h
      split at h
      · rw [bind_eq_ok_iff] at h
        obtain ⟨changes, -, h⟩ := h
        exact ⟨row, _, changes, (Except.ok.inj h).symm⟩
      · exact ⟨row, _, [], (Except.ok.inj h).symm⟩

/-- An update of rows. -/
theorem exists_of_planUpdate {returned : Bool} {w : Sql.Write}
    (h : planUpdate c q returned = .ok w) :
    ∃ assignments clause, writtenClause c q = .ok clause ∧
      w = .update (c.schema.tableOf q.model) assignments clause returned := by
  rw [planUpdate] at h
  split at h
  · rw [bind_eq_ok_iff] at h
    obtain ⟨assignments, -, h⟩ := h
    dsimp only at h
    split at h
    · cases h
    · rw [bind_eq_ok_iff] at h
      obtain ⟨clause, hclause, h⟩ := h
      exact ⟨assignments, clause, hclause, (Except.ok.inj h).symm⟩
  · cases h
  · cases h

/-- A delete of rows. -/
theorem exists_of_planDelete {w : Sql.Write} (h : planDelete c q = .ok w) :
    ∃ clause, writtenClause c q = .ok clause ∧ w = .delete (c.schema.tableOf q.model) clause := by
  rw [planDelete, bind_eq_ok_iff] at h
  obtain ⟨clause, hclause, h⟩ := h
  exact ⟨clause, hclause, (Except.ok.inj h).symm⟩

/-! ## Plans -/

/-- The plan of a query, by the function that planned it. -/
inductive Planned (c : Context) (filtered : Bool) (q : Query) : Plan → Prop
  | find {r : Read} (h : planFind c q = .ok r) : Planned c filtered q (.read r)
  | count {r : Read} (h : planCount c q = .ok r) : Planned c filtered q (.read r)
  | aggregate {r : Read} (h : planAggregate c filtered q = .ok r) : Planned c filtered q (.read r)
  | groupBy {r : Read} (h : planGroupBy c filtered q = .ok r) : Planned c filtered q (.read r)
  | create {w : Sql.Write} (h : planCreate c q = .ok w) : Planned c filtered q (.write w)
  | createMany {w : Sql.Write} (h : planCreateMany c q = .ok w) : Planned c filtered q (.write w)
  | update {w : Sql.Write} (returned : Bool) (h : planUpdate c q returned = .ok w) :
    Planned c filtered q (.write w)
  | upsert {w : Sql.Write} (h : planUpsert c q = .ok w) : Planned c filtered q (.write w)
  | delete {w : Sql.Write} (h : planDelete c q = .ok w) : Planned c filtered q (.write w)

/-- Every plan is of one of the kinds. -/
theorem planned_of_plan {p : Plan} (h : plan c filtered q = .ok p) : Planned c filtered q p := by
  rw [plan, bind_eq_ok_iff] at h
  obtain ⟨-, -, h⟩ := h
  split at h <;> rw [bind_eq_ok_iff] at h <;> obtain ⟨part, hpart, h⟩ := h <;>
    obtain rfl := Except.ok.inj h
  iterate 5 exact .find hpart
  · exact .count hpart
  · exact .aggregate hpart
  · exact .groupBy hpart
  · exact .create hpart
  · exact .createMany hpart
  · exact .update true hpart
  · exact .update false hpart
  · exact .upsert hpart
  · exact .delete hpart
  · exact .delete hpart

/-- The plan of a reading action is that of a read which finds rows. -/
theorem find_of_plan {p : Plan} (h : plan c filtered q = .ok p) (haction : q.action.isRead) :
    ∃ r, planFind c q = .ok r ∧ p = .read r := by
  have hfind (h : Plan.read <$> planFind c q = .ok p) : ∃ r, planFind c q = .ok r ∧ p = .read r := by
    obtain ⟨r, hr, hp⟩ := map_eq_ok_iff.mp h
    exact ⟨r, hr, hp.symm⟩
  rw [plan, bind_eq_ok_iff] at h
  obtain ⟨-, -, h⟩ := h
  cases hkind : q.action with
  | findUnique => rw [hkind] at h; exact hfind h
  | findUniqueOrThrow => rw [hkind] at h; exact hfind h
  | findFirst => rw [hkind] at h; exact hfind h
  | findFirstOrThrow => rw [hkind] at h; exact hfind h
  | findMany => rw [hkind] at h; exact hfind h
  | _ => rw [hkind] at haction; cases haction

/-- The plan of any other action that does not write is a read which counts or aggregates rows. -/
theorem counted_of_plan {p : Plan} (h : plan c filtered q = .ok p) (hfind : q.action.isRead = false)
    (hread : q.action.isWrite = false) :
    ∃ r, p = .read r ∧
      (planCount c q = .ok r ∨ planAggregate c filtered q = .ok r ∨
        planGroupBy c filtered q = .ok r) := by
  rw [plan, bind_eq_ok_iff] at h
  obtain ⟨-, -, h⟩ := h
  cases hkind : q.action with
  | count =>
    rw [hkind] at h
    obtain ⟨r, hr, hp⟩ := bind_eq_ok_iff.mp h
    exact ⟨r, (Except.ok.inj hp).symm, .inl hr⟩
  | aggregate =>
    rw [hkind] at h
    obtain ⟨r, hr, hp⟩ := bind_eq_ok_iff.mp h
    exact ⟨r, (Except.ok.inj hp).symm, .inr (.inl hr)⟩
  | groupBy =>
    rw [hkind] at h
    obtain ⟨r, hr, hp⟩ := bind_eq_ok_iff.mp h
    exact ⟨r, (Except.ok.inj hp).symm, .inr (.inr hr)⟩
  | findUnique | findUniqueOrThrow | findFirst | findFirstOrThrow | findMany =>
    rw [hkind] at hfind
    cases hfind
  | _ =>
    rw [hkind] at hread
    cases hread

/-- The plan of an aggregate is that of a read which aggregates rows. -/
theorem aggregate_of_plan {p : Plan} (h : plan c filtered q = .ok p)
    (haction : q.action = .aggregate) : ∃ r, planAggregate c filtered q = .ok r ∧ p = .read r := by
  rw [plan, haction, bind_eq_ok_iff] at h
  obtain ⟨-, -, h⟩ := h
  obtain ⟨r, hr, hp⟩ := bind_eq_ok_iff.mp h
  exact ⟨r, hr, (Except.ok.inj hp).symm⟩

/-! ## Mutations -/

/-- What is present is not null. -/
theorem present_eq_some_iff {value : Option Value} {v : Value} :
    present value = some v ↔ value = some v ∧ v ≠ .null := by
  unfold present
  split
  · refine iff_of_false (by simp) ?_
    rintro ⟨hv, hnull⟩
    exact hnull (Option.some.inj hv).symm
  · next hother =>
    refine ⟨fun hv => ⟨hv, ?_⟩, fun h => h.1⟩
    rintro rfl
    exact hother hv

/-- The plans of mutations: the plan of the query alone, or the plan of what is left of its record
with the writes to join tables that the record asks for. -/
inductive Mutated (c : Context) (filtered : Bool) (q : Query) : MutationPlan → Prop
  | alone {main : Plan} (h : plan c filtered q = .ok main) : Mutated c filtered q { main }
  | connected {record row : DataRecord} {junctions : List JunctionWrite} {main : Plan} {id : RowId}
    {writes : List (List Sql.Write)} (data : q.arguments.data = some (.one record))
    (split : splitRecord c q.model record = .ok (row, junctions)) (some_junction : junctions ≠ [])
    (action : connects q.action) (row_planned : planRow c filtered q row = .ok main)
    (id_found : rowId c q record = .ok id)
    (writes_planned : junctions.mapM (junctionWrites c q.model id.bound) = .ok writes) :
    Mutated c filtered q { main, junctions := writes.flatten, generatedId := id.column? }

/-- Every plan of a mutation is one of these. -/
theorem mutated_of_planMutation {p : MutationPlan} (h : planMutation c filtered q = .ok p) :
    Mutated c filtered q p := by
  rw [planMutation] at h
  split at h
  · next record hdata =>
    rw [bind_eq_ok_iff] at h
    obtain ⟨⟨row, junctions⟩, hsplit, h⟩ := h
    dsimp only at h
    split at h
    · rw [bind_eq_ok_iff] at h
      obtain ⟨main, hmain, h⟩ := h
      obtain rfl := Except.ok.inj h
      exact .alone hmain
    · next hjunctions =>
      split at h
      · cases h
      · next haction =>
        rw [bind_eq_ok_iff] at h
        obtain ⟨main, hmain, h⟩ := h
        rw [bind_eq_ok_iff] at h
        obtain ⟨id, hid, h⟩ := h
        rw [bind_eq_ok_iff] at h
        obtain ⟨writes, hwrites, h⟩ := h
        obtain rfl := Except.ok.inj h
        have hsome : junctions ≠ [] := fun hnone => hjunctions (List.isEmpty_iff.mpr hnone)
        have hconnects : connects q.action = true := by simpa using haction
        exact .connected hdata hsplit hsome hconnects hmain hid hwrites
  · rw [bind_eq_ok_iff] at h
    obtain ⟨main, hmain, h⟩ := h
    obtain rfl := Except.ok.inj h
    exact .alone hmain

/-- The plan of what is left of a record is of one of the kinds, for a query on the same rows. -/
theorem planned_of_planRow {row : DataRecord} {p : Plan} (h : planRow c filtered q row = .ok p) :
    ∃ q' : Query, Planned c filtered q' p ∧ q'.model = q.model ∧
      q'.arguments.filter = q.arguments.filter := by
  rw [planRow] at h
  split at h
  · rw [bind_eq_ok_iff] at h
    obtain ⟨r, hr, h⟩ := h
    obtain rfl := Except.ok.inj h
    exact ⟨_, .find hr, rfl, rfl⟩
  · exact ⟨_, planned_of_plan h, rfl, rfl⟩

/-- The main plan of a mutation is of one of the kinds, for the query itself or for one on the same
rows. -/
theorem planned_of_planMutation {p : MutationPlan} (h : planMutation c filtered q = .ok p) :
    ∃ q' : Query, Planned c filtered q' p.main ∧ q'.model = q.model ∧
      q'.arguments.filter = q.arguments.filter := by
  cases mutated_of_planMutation h with
  | alone hmain => exact ⟨q, planned_of_plan hmain, rfl, rfl⟩
  | connected data split some_junction action row_planned id_found writes_planned =>
    exact planned_of_planRow row_planned

end RelationalQuery.Compile
