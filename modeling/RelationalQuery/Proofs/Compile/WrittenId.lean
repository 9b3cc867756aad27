import RelationalQuery.Proofs.Compile.Connected
import RelationalQuery.Proofs.Compile.Selected
import RelationalQuery.Proofs.Meaning.FilterMeaning

/-!
# The id of the written row

The statements of a mutation on join tables are sent after the row itself is written, and bind its id
first. `WritesId` says which id the row has by then. A created row has that of its record or a
generated one. An updated row has the one that its record assigns, and only if it assigns none the one
that the filter selects it by.

What is bound for an updated row is always the id that the filter selects. `followsRow_iff` says that
this is the id of the row as it is written, unless the update moves the row to another id
(`Moves`).
-/

namespace RelationalQuery

/-! ## Rows that a filter selects -/

/-- Whether a filter selects rows by the value of a field: by the value itself or by an equality. -/
structure Filter.Selects (filter : Filter) (field : String) (value : Value) : Prop where
  known : value ≠ .null
  asked : filter.get? field = some (.literal value) ∨
    filter.get? field = some (.comparison [(Comparison.equals.key, value)])

/-- A filter selects rows by one value of a field at most. -/
theorem Filter.Selects.unique {filter : Filter} {field : String} {a b : Value}
    (ha : filter.Selects field a) (hb : filter.Selects field b) : a = b := by
  rcases ha.asked with ha | ha <;> rcases hb.asked with hb | hb <;>
    simpa using ha.symm.trans hb

namespace Engine

variable {e : Engine} {s : Schema} {model : String} {row : StoredRow} {filter : Filter}

/-- An equality with a value that is not null is a comparison. -/
theorem operatorTruth_equals (value : Value) {operand : Value} (h : operand ≠ .null) :
    e.operatorTruth value .equals operand = e.compared "=" value operand := by
  cases operand <;> first | rfl | exact absurd rfl h

/-- A filter that holds of a row holds entry by entry. -/
theorem criterionTruth_of_mem {key : String} {criterion : Criterion}
    (h : e.filterTruth s model row filter = .yes) (hmem : (key, criterion) ∈ filter) :
    e.criterionTruth s model row key criterion = .yes := by
  induction filter with
  | nil => exact absurd hmem List.not_mem_nil
  | cons entry rest ih =>
    obtain ⟨key', criterion'⟩ := entry
    rw [filterTruth] at h
    have hboth : e.criterionTruth s model row key' criterion' = .yes ∧
        e.filterTruth s model row rest = .yes := by
      generalize e.criterionTruth s model row key' criterion' = a at h
      generalize e.filterTruth s model row rest = b at h
      cases a <;> cases b <;> first | exact ⟨rfl, rfl⟩ | cases h
    rcases List.mem_cons.mp hmem with heq | hmem
    · obtain ⟨rfl, rfl⟩ := Prod.mk.inj heq
      exact hboth.1
    · exact ih hboth.2 hmem

/-- A row that passes a filter has the value that the filter selects it by. -/
theorem equal_of_selects {field : String} {value : Value} (hselects : filter.Selects field value)
    (h : e.filterTruth s model row filter = .yes) :
    e.equal (row (s.columnOf model field)) value := by
  have hcompared : e.compared "=" (row (s.columnOf model field)) value = .yes := by
    rw [← operatorTruth_equals _ hselects.known]
    rcases hselects.asked with hget | hget
    · exact criterionTruth_of_mem h (Dict.mem_of_get? hget)
    · have htruth := criterionTruth_of_mem h (Dict.mem_of_get? hget)
      rw [criterionTruth, comparisonTruths, comparisonTruths, Truth.all_cons, Truth.all_nil,
        Truth.and_yes] at htruth
      cases value <;> simpa only [comparisonTruth, Comparison.ofKey?_key] using htruth
  rw [equal, hcompared]
  rfl

end Engine

/-! ## Ids of rows -/

/-- What a record has under the id of its row, if that is a value. -/
def recordedId (s : Schema) (model : String) (record : DataRecord) : Option Value :=
  (record.get? (Compile.idFieldOf s model)).bind Datum.value?

namespace Compile

variable {c : Context} {q : Query} {record : DataRecord} {id : RowId}

/-- A criterion has a sole value if it is a literal or an equality. -/
theorem soleValue_eq_some_iff {criterion : Criterion} {value : Value} :
    soleValue criterion = some value ↔
      criterion = .literal value ∨ criterion = .comparison [(Comparison.equals.key, value)] := by
  unfold soleValue
  split
  · simp
  · next key operand =>
    by_cases hkey : key = Comparison.equals.key <;> simp [hkey]
  · next hliteral hcomparison =>
    refine iff_of_false (fun h => by cases h) ?_
    rintro (rfl | rfl)
    · exact hliteral value rfl
    · exact hcomparison _ value rfl

/-- The id when a generated one is known. -/
def RowId.resolved (generated : Value) : RowId → Value
  | known value => value
  | RowId.generated _ => generated

/-- The id of a created row is that of its record, or if this has none, it is generated. -/
theorem rowId_create (haction : q.action = .create) (h : rowId c q record = .ok id) :
    (∃ value, recordedId c.schema q.model record = some value ∧ value ≠ .null ∧
        id = .known value) ∨
      (∀ value, recordedId c.schema q.model record = some value → value = .null) ∧
        id = .generated (c.schema.idColumn q.model) := by
  rw [rowId, haction] at h
  dsimp only at h
  split at h
  · next value hvalue =>
    obtain rfl := Except.ok.inj h
    obtain ⟨hrecorded, hknown⟩ := present_eq_some_iff.mp hvalue
    exact .inl ⟨value, hrecorded, hknown, rfl⟩
  · next hnone =>
    obtain rfl := Except.ok.inj h
    refine .inr ⟨fun value hvalue => Classical.not_not.mp fun hknown => ?_, rfl⟩
    exact Option.some_ne_none _ ((present_eq_some_iff.mpr ⟨hvalue, hknown⟩).symm.trans hnone)

/-- The id of an updated row is the one that the filter selects. -/
theorem rowId_update (haction : q.action = .update) (h : rowId c q record = .ok id) :
    ∃ filter value, q.arguments.filter = some filter ∧
      filter.Selects (idFieldOf c.schema q.model) value ∧ id = .known value := by
  rw [rowId, haction] at h
  dsimp only at h
  split at h
  · next value hvalue =>
    obtain rfl := Except.ok.inj h
    obtain ⟨hasked, hknown⟩ := present_eq_some_iff.mp hvalue
    obtain ⟨filter, hfilter, hasked⟩ := Option.bind_eq_some_iff.mp hasked
    obtain ⟨criterion, hget, hsole⟩ := Option.bind_eq_some_iff.mp hasked
    refine ⟨filter, value, hfilter, ⟨hknown, ?_⟩, rfl⟩
    rcases soleValue_eq_some_iff.mp hsole with rfl | rfl
    · exact .inl hget
    · exact .inr hget
  · cases h

/-- An update assigns to each column of its record the value there. -/
theorem exists_assignment_of_planUpdate {returned : Bool} {w : Sql.Write}
    (h : planUpdate c q returned = .ok w) (hdata : q.arguments.data = some (.one record))
    {field : String} {value : Value} (hvalue : (field, Datum.value value) ∈ record) :
    ∃ assignments clause, w = .update (c.schema.tableOf q.model) assignments clause returned ∧
      (c.schema.columnOf q.model field, value) ∈ assignments := by
  rw [planUpdate, hdata] at h
  obtain ⟨assignments, hassignments, h⟩ := bind_eq_ok_iff.mp h
  dsimp only at h
  split at h
  · cases h
  · obtain ⟨clause, -, h⟩ := bind_eq_ok_iff.mp h
    obtain rfl := Except.ok.inj h
    obtain ⟨assignment, hmem, hassignment⟩ := ok_of_mem_mapM hassignments hvalue
    obtain rfl : (c.schema.columnOf q.model field, value) = assignment :=
      Except.ok.inj hassignment
    exact ⟨assignments, clause, rfl, hmem⟩

end Compile

/-- The statements on join tables that are sent for a mutation. Where an id is generated, it is bound
before. -/
def Mutation.issued (m : Mutation) (generated : Value) : List Statement :=
  if m.generatedId.isSome then m.bindGeneratedId generated else m.relations

namespace Compiler

/-- The id that the row of a query has once it is written. -/
inductive WritesId (k : Compiler) (q : Query) (generated : Value) : Value → Prop
  /-- A created row has the id of its record. -/
  | recorded {record : DataRecord} {id : Value} (action : q.action = .create)
    (data : q.arguments.data = some (.one record))
    (recorded : recordedId k.schema q.model record = some id) (known : id ≠ .null) :
    WritesId k q generated id
  /-- Without one there, it has the id that the database generates. -/
  | generated {record : DataRecord} (action : q.action = .create)
    (data : q.arguments.data = some (.one record))
    (absent : ∀ id, recordedId k.schema q.model record = some id → id = .null) :
    WritesId k q generated generated
  /-- An updated row has the id that its record assigns. -/
  | assigned {record : DataRecord} {id : Value} (action : q.action = .update)
    (data : q.arguments.data = some (.one record))
    (assigned : recordedId k.schema q.model record = some id) : WritesId k q generated id
  /-- Without an assignment, it keeps the id that the filter selects it by. -/
  | kept {record : DataRecord} {filter : Filter} {id : Value} (action : q.action = .update)
    (data : q.arguments.data = some (.one record))
    (absent : recordedId k.schema q.model record = none)
    (filtered : q.arguments.filter = some filter)
    (selected : filter.Selects (Compile.idFieldOf k.schema q.model) id) : WritesId k q generated id

/-- Whether all statements on join tables bind the id of the written row first, whatever id may be
generated. -/
def FollowsRow (k : Compiler) (q : Query) (m : Mutation) : Prop :=
  ∀ generated id, k.WritesId q generated id → ∀ s ∈ m.issued generated, s.args.head? = some id

/-- Whether a query is an update that assigns another id to its row than the filter selects. -/
inductive Moves (k : Compiler) (q : Query) : Prop
  | intro {record : DataRecord} {filter : Filter} {selected id : Value}
    (action : q.action = .update) (data : q.arguments.data = some (.one record))
    (filtered : q.arguments.filter = some filter)
    (selects : filter.Selects (Compile.idFieldOf k.schema q.model) selected)
    (assigned : recordedId k.schema q.model record = some id) (other : id ≠ selected)

/-- Whether a mutation is that of an update whose filter selects rows by an id: all its statements on
join tables bind this id, which rows that pass the filter have, while the write of the row sets the
id that the record assigns, if it assigns one. -/
structure BindsSelected (k : Compiler) (q : Query) (record : DataRecord) (selected : Value)
    (m : Mutation) : Prop where
  data : q.arguments.data = some (.one record)
  passed (e : Engine) (row : StoredRow)
    (h : e.optionalTruth k.schema q.model row q.arguments.filter = .yes) :
    e.equal (row (k.schema.columnOf q.model (Compile.idFieldOf k.schema q.model))) selected
  known : m.generatedId = none
  bound : ∀ s ∈ m.relations, s.args.head? = some selected
  assigned (id : Value) (h : recordedId k.schema q.model record = some id) :
    ∃ assignments clause,
      m.main = (Sql.Write.update (k.schema.tableOf q.model) assignments clause true).statement
        k.dialect ∧
      (k.schema.columnOf q.model (Compile.idFieldOf k.schema q.model), id) ∈ assignments

variable {k : Compiler} {q : Query} {record : DataRecord} {m : Mutation} {id : Compile.RowId}

/-- A mutation with statements on join tables is a create or update of a record that connects. -/
theorem exists_of_relations_ne_nil (hm : k.mutation q = .ok m) (hsome : m.relations ≠ []) :
    ∃ record, q.arguments.data = some (.one record) ∧ relationEntries record ≠ [] ∧
      (q.action = .create ∨ q.action = .update) := by
  obtain ⟨p, hp, rfl⟩ := map_eq_ok_iff.mp hm
  cases Compile.mutated_of_planMutation hp with
  | alone hmain => exact absurd rfl hsome
  | @connected record row junctions main id writes hdata hsplit hjunctions haction =>
    refine ⟨record, hdata, fun hnone => ?_, ?_⟩
    · have hasks := (Compile.asks_of_splitRecord hsplit).2
      rw [hnone] at hasks
      exact hjunctions (List.forall₂_nil_left_iff.mp hasks)
    · cases hkind : q.action <;> rw [hkind] at haction <;>
        first | exact .inl rfl | exact .inr rfl | cases haction

/-- The statements on join tables bind the id of the row and one value more. -/
theorem args_of_madeBy {model : String} {changes : List Change} {value : Value}
    {statements : List Statement}
    (h : List.Forall₂ (Change.MadeBy k model value) changes statements) :
    ∀ s ∈ statements, ∃ other, s.args = [value, other] :=
  ((List.forall₂_and_left _ _).mp (h.flip.imp fun _ _ hmade => ⟨⟨_, hmade.args⟩, hmade⟩)).1

/-- What is sent binds first the id of the row that is known, or the generated one. -/
theorem head?_of_issued {generated : Value} {s : Statement} (hm : k.mutation q = .ok m)
    (hargs : ∀ s ∈ m.relations, ∃ other, s.args = [id.bound, other])
    (hid : m.generatedId = id.column?) (hs : s ∈ m.issued generated) :
    s.args.head? = some (id.resolved generated) := by
  rw [Mutation.issued, hid] at hs
  cases id with
  | known value =>
    obtain ⟨other, hother⟩ := hargs s hs
    rw [hother]
    rfl
  | generated column =>
    obtain ⟨unbound, hunbound, rfl⟩ := List.mem_map.mp hs
    obtain ⟨other, hother⟩ := hargs unbound hunbound
    rw [(tagged_of_mem_relations hm hunbound).withFirstArg_eq hother]
    rfl

/-- The id that is bound for a created row is the one that it has. -/
theorem writesId_created {generated value : Value} (haction : q.action = .create)
    (hdata : q.arguments.data = some (.one record))
    (hid : Compile.rowId k.context q record = .ok id) (h : k.WritesId q generated value) :
    value = id.resolved generated := by
  have hsame {record' : DataRecord} (hdata' : q.arguments.data = some (.one record')) :
      record' = record := WriteData.one.inj (Option.some.inj (hdata'.symm.trans hdata))
  rcases Compile.rowId_create haction hid with
    ⟨known, hrecorded, hknown, rfl⟩ | ⟨habsent, rfl⟩
  · cases h with
    | recorded _ hdata' hrecorded' _ =>
      obtain rfl := hsame hdata'
      exact Option.some.inj (hrecorded'.symm.trans hrecorded)
    | generated _ hdata' habsent =>
      obtain rfl := hsame hdata'
      exact absurd (habsent known hrecorded) hknown
    | assigned haction' => rw [haction] at haction'; cases haction'
    | kept haction' => rw [haction] at haction'; cases haction'
  · cases h with
    | recorded _ hdata' hrecorded hknown =>
      obtain rfl := hsame hdata'
      exact absurd (habsent value hrecorded) hknown
    | generated => rfl
    | assigned haction' => rw [haction] at haction'; cases haction'
    | kept haction' => rw [haction] at haction'; cases haction'

/-- The main statement of an update that connects rows sets the values of its record. -/
theorem exists_assignment_of_connects (haction : q.action = .update)
    (hconnects : k.Connects q record m) {field : String} {value : Value}
    (hvalue : (field, Datum.value value) ∈ record) :
    ∃ assignments clause,
      m.main = (Sql.Write.update (k.schema.tableOf q.model) assignments clause true).statement
        k.dialect ∧
      (k.schema.columnOf q.model field, value) ∈ assignments := by
  have hrow : (field, Datum.value value) ∈ rowEntries record :=
    List.mem_filter.mpr ⟨hvalue, rfl⟩
  have hwrites : ¬ (q.action = .update ∧ rowEntries record = []) :=
    fun h => List.ne_nil_of_mem hrow h.2
  have hmain := hconnects.main
  rw [Query.ofRow, if_neg hwrites] at hmain
  obtain ⟨p, hp, hstatement⟩ := map_eq_ok_iff.mp hmain
  rw [Compile.plan, bind_eq_ok_iff] at hp
  obtain ⟨-, -, hp⟩ := hp
  dsimp only at hp
  rw [haction] at hp
  obtain ⟨w, hw, rfl⟩ := map_eq_ok_iff.mp hp
  obtain ⟨assignments, clause, rfl, hmem⟩ := Compile.exists_assignment_of_planUpdate hw rfl hrow
  exact ⟨assignments, clause, hstatement.symm, hmem⟩

/-- Where a filter selects rows by an id, the statements of the update bind this id. -/
theorem bindsSelected_of_connects {filter : Filter} {selected : Value}
    (haction : q.action = .update) (hdata : q.arguments.data = some (.one record))
    (hfilter : q.arguments.filter = some filter)
    (hselects : filter.Selects (Compile.idFieldOf k.schema q.model) selected)
    (hconnects : k.Connects q record m) (hgenerated : m.generatedId = none)
    (hargs : ∀ s ∈ m.relations, ∃ other, s.args = [selected, other]) :
    k.BindsSelected q record selected m where
  data := hdata
  passed e row h := by
    rw [hfilter] at h
    exact Engine.equal_of_selects hselects h
  known := hgenerated
  bound s hs := by
    obtain ⟨other, hother⟩ := hargs s hs
    rw [hother]
    rfl
  assigned id h := by
    obtain ⟨datum, hget, hdatum⟩ := Option.bind_eq_some_iff.mp h
    cases datum with
    | relation write => cases hdatum
    | value value =>
      obtain rfl := Option.some.inj hdatum
      exact exists_assignment_of_connects haction hconnects (Dict.mem_of_get? hget)

/-- An updated row has the id that the filter selects, unless the update moves it to another. -/
theorem writesId_updated {filter : Filter} {selected : Value} (generated : Value)
    (haction : q.action = .update) (hfilter : q.arguments.filter = some filter)
    (hselects : filter.Selects (Compile.idFieldOf k.schema q.model) selected) :
    (∀ id, k.WritesId q generated id → id = selected) ↔ ¬ k.Moves q := by
  constructor
  · rintro hids ⟨haction', hdata', hfilter', hselects', hassigned, hother⟩
    obtain rfl := Option.some.inj (hfilter.symm.trans hfilter')
    obtain rfl := hselects.unique hselects'
    exact hother (hids _ (.assigned haction' hdata' hassigned))
  · intro hstays id hid
    cases hid with
    | recorded haction' => rw [haction] at haction'; cases haction'
    | generated haction' => rw [haction] at haction'; cases haction'
    | assigned _ hdata' hassigned =>
      exact Classical.not_not.mp fun hother =>
        hstays ⟨haction, hdata', hfilter, hselects, hassigned, hother⟩
    | kept _ _ _ hfilter' hselects' =>
      obtain rfl := Option.some.inj (hfilter.symm.trans hfilter')
      exact hselects'.unique hselects

/-- The row of a create or update that connects it has an id once it is written. -/
theorem exists_writesId (hdata : q.arguments.data = some (.one record))
    (haction : q.action = .create ∨ q.action = .update)
    (hid : Compile.rowId k.context q record = .ok id) (generated : Value) :
    ∃ value, k.WritesId q generated value := by
  rcases haction with haction | haction
  · rcases Compile.rowId_create haction hid with ⟨value, hrecorded, hknown, -⟩ | ⟨habsent, -⟩
    · exact ⟨value, .recorded haction hdata hrecorded hknown⟩
    · exact ⟨generated, .generated haction hdata habsent⟩
  · obtain ⟨filter, value, hfilter, hselects, -⟩ := Compile.rowId_update haction hid
    cases hrecorded : recordedId k.schema q.model record with
    | none => exact ⟨value, .kept haction hdata hrecorded hfilter hselects⟩
    | some assigned => exact ⟨assigned, .assigned haction hdata hrecorded⟩

/-- The statements of a create or update on join tables bind the id that its row has by then, unless
the query is an update that moves the row to another id. All statements of an update bind the id that
its filter selects, while the main statement sets the one that the record assigns. -/
theorem followsRow_iff (hm : k.mutation q = .ok m) (hsome : m.relations ≠ []) :
    (∀ generated, ∃ id, k.WritesId q generated id) ∧
      (k.FollowsRow q m ↔ ¬ k.Moves q) ∧
      (q.action = .update → ∃ record selected, k.BindsSelected q record selected m) := by
  obtain ⟨record, hdata, hrelations, haction⟩ := exists_of_relations_ne_nil hm hsome
  have hconnects := connects_of_mutation hdata hrelations haction hm
  obtain ⟨id, hid, hgenerated, -, hmade⟩ := hconnects.relations
  have hargs := args_of_madeBy hmade
  refine ⟨exists_writesId hdata haction hid, ?_⟩
  rcases haction with haction | haction
  · -- the id of a created row is read off its record, which is also where the row has it from
    have hother : q.action ≠ .update := fun h => by rw [haction] at h; cases h
    have hfollows : k.FollowsRow q m := fun generated value hvalue s hs => by
      rw [writesId_created haction hdata hid hvalue, head?_of_issued hm hargs hgenerated hs]
    have hstays : ¬ k.Moves q := by
      rintro ⟨haction', -⟩
      exact hother haction'
    exact ⟨iff_of_true hfollows hstays, fun h => absurd h hother⟩
  · -- the id of an updated row is read off the filter, while the row has it from its record first
    obtain ⟨filter, selected, hfilter, hselects, rfl⟩ := Compile.rowId_update haction hid
    have hbinds :=
      bindsSelected_of_connects haction hdata hfilter hselects hconnects hgenerated hargs
    refine ⟨?_, fun _ => ⟨record, selected, hbinds⟩⟩
    constructor
    · intro hfollows
      refine (writesId_updated .null haction hfilter hselects).mp fun id hwritten => ?_
      obtain ⟨s, hs⟩ := List.exists_mem_of_ne_nil _ hsome
      have hissued : s ∈ m.issued .null := by rwa [Mutation.issued, hgenerated]
      have hhead := hfollows .null id hwritten s hissued
      exact Option.some.inj (hhead.symm.trans (hbinds.bound s hs))
    · intro hstays generated value hvalue s hs
      have hsame := (writesId_updated generated haction hfilter hselects).mpr hstays
      rw [hsame value hvalue, head?_of_issued hm hargs hgenerated hs]
      rfl

/-- Gives a post another id and puts it under a tag. -/
def renumber (old new tag : Value) : Query :=
  { model := "Post", action := .update
    arguments :=
      { filter := some [("id", .literal old)]
        data := some (.one [("id", .value new), ("tags", .relation { connect := [⟨"id", tag⟩] })]) } }

/-- A post that keeps its id is tagged under it. -/
theorem followsRow_renumber_same :
    ∃ m, postTags.mutation (renumber (.int 1) (.int 1) (.int 7)) = .ok m ∧
      m.relations.map (·.args) = [[.int 1, .int 7]] ∧
      postTags.FollowsRow (renumber (.int 1) (.int 1) (.int 7)) m := by
  have hm : postTags.mutation (renumber (.int 1) (.int 1) (.int 7)) = .ok _ := rfl
  refine ⟨_, hm, rfl, (followsRow_iff hm (List.cons_ne_nil _ _)).2.1.mpr ?_⟩
  rintro ⟨-, hdata, hfilter, hselects, hassigned, hother⟩
  obtain rfl := WriteData.one.inj (Option.some.inj hdata)
  obtain rfl := Option.some.inj hfilter
  have hone : Filter.Selects [("id", .literal (.int 1))] "id" (.int 1) := ⟨by simp, .inl rfl⟩
  exact hother ((Option.some.inj hassigned).symm.trans (hone.unique hselects))

/-- A post that gets another id is tagged under the one that it had. -/
theorem mutation_renumber :
    ∃ m, postTags.mutation (renumber (.int 1) (.int 2) (.int 7)) = .ok m ∧
      m.main.sql = "UPDATE \x60posts\x60 SET \x60id\x60 = ? WHERE \x60id\x60 = ?" ∧
      m.main.args = [.int 2, .int 1] ∧
      m.relations.map (·.args) = [[.int 1, .int 7]] ∧
      ¬ postTags.FollowsRow (renumber (.int 1) (.int 2) (.int 7)) m := by
  have hm : postTags.mutation (renumber (.int 1) (.int 2) (.int 7)) = .ok _ := rfl
  refine ⟨_, hm, rfl, rfl, rfl, fun hfollows => ?_⟩
  have hhead := hfollows .null (.int 2) (.assigned rfl rfl rfl) _ List.mem_cons_self
  have hsame : Value.int 1 = Value.int 2 := Option.some.inj hhead
  simp at hsame

end Compiler

end RelationalQuery
