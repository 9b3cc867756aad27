import RelationalQuery.Proofs.Blank.Statement
import RelationalQuery.Proofs.Compile.Connected

/-!
# Generated ids

A created row whose record has no id gets one from the database. The statements that connect it are
compiled before, with a null in its place, and the id is bound when it is known.
`bindGeneratedId_eq` says that this comes to the same as if the id had been in the record: the
statements are those that the query with the id is compiled to.

## Shape of the proof

The two compilations run side by side. Up to the id they take the record apart in the same way; then
each change of the record is written once under either id. `withFirstArg_write` is the one fact
about texts that is needed: the id of the row is the first value of the statement, and stands nowhere
else.
-/

namespace RelationalQuery

/-! ## Records -/

namespace Compile

variable {c : Context} {model : String} {record row : DataRecord} {field : String} {id : Value}

/-- A value that is put into a record, where no relation stands, is put into its row. -/
theorem splitRecord_put {junctions : List JunctionWrite}
    (hfield : ∀ write, record.get? field ≠ some (.relation write))
    (h : splitRecord c model record = .ok (row, junctions)) :
    splitRecord c model (record.put field (.value id)) =
      .ok (row.put field (.value id), junctions) := by
  induction record generalizing row junctions with
  | nil =>
    obtain ⟨rfl, rfl⟩ := Prod.mk.inj (Except.ok.inj h)
    rfl
  | cons entry rest ih =>
    obtain ⟨key, datum⟩ := entry
    cases datum with
    | value value =>
      rw [splitRecord, bind_eq_ok_iff] at h
      obtain ⟨⟨row', junctions'⟩, hrest, h⟩ := h
      obtain ⟨rfl, rfl⟩ := Prod.mk.inj (Except.ok.inj h)
      by_cases hkey : key = field
      · simp only [Dict.put, if_pos hkey, splitRecord, hrest]
        rfl
      · have hrest' := ih (by simpa [Dict.get?, hkey] using hfield) hrest
        simp only [Dict.put, if_neg hkey, splitRecord, hrest']
        rfl
    | relation write =>
      rw [splitRecord, bind_eq_ok_iff] at h
      obtain ⟨relation, hrelation, h⟩ := h
      rw [bind_eq_ok_iff] at h
      obtain ⟨⟨row', junctions'⟩, hrest, h⟩ := h
      obtain ⟨rfl, rfl⟩ := Prod.mk.inj (Except.ok.inj h)
      have hkey : key ≠ field := by
        rintro rfl
        exact hfield write (by simp [Dict.get?])
      have hrest' := ih (by simpa [Dict.get?, hkey] using hfield) hrest
      simp only [Dict.put, if_neg hkey, splitRecord, hrelation, hrest']
      rfl

/-- A record that can be inserted still can be with a value put into it. -/
theorem exists_assignmentsOf_put {assignments : Sql.Assignments}
    (h : assignmentsOf c model row = .ok assignments) :
    ∃ others, assignmentsOf c model (row.put field (.value id)) = .ok others := by
  refine exists_mapM_eq_ok fun entry hentry => ?_
  rcases Dict.mem_put hentry with rfl | hentry
  · exact ⟨_, rfl⟩
  · obtain ⟨assignment, -, hassignment⟩ := ok_of_mem_mapM h hentry
    exact ⟨assignment, hassignment⟩

variable {q : Query} {filtered : Bool}

/-- A row that can be created still can be with a value put into it. -/
theorem exists_planRow_put {main : Plan} (haction : q.action = .create)
    (h : planRow c filtered q row = .ok main) :
    ∃ other, planRow c filtered q (row.put field (.value id)) = .ok other := by
  have hcreates : ¬ (q.action = .update ∧ row.isEmpty) := by simp [haction]
  have hcreates' : ¬ (q.action = .update ∧ (row.put field (.value id)).isEmpty) := by
    simp [haction]
  rw [planRow, if_neg hcreates, plan, bind_eq_ok_iff] at h
  obtain ⟨_, hchecked, h⟩ := h
  dsimp only at hchecked h
  rw [haction] at h
  obtain ⟨w, hw, -⟩ := map_eq_ok_iff.mp h
  obtain ⟨assignments, hassignments, -⟩ := bind_eq_ok_iff.mp hw
  obtain ⟨others, hothers⟩ : ∃ others,
      assignmentsOf c q.model (row.put field (.value id)) = .ok others :=
    exists_assignmentsOf_put hassignments
  rw [planRow, if_neg hcreates', plan]
  dsimp only
  rw [hchecked, ok_bind, haction]
  dsimp only
  rw [planCreate]
  dsimp only
  rw [hothers]
  exact ⟨_, rfl⟩

/-! ## Ids -/

/-- A created row without an id in its record has a generated one. -/
theorem rowId_of_absent (haction : q.action = .create)
    (habsent : record.get? (idFieldOf c.schema q.model) = none ∨
      record.get? (idFieldOf c.schema q.model) = some (.value .null)) :
    rowId c q record = .ok (.generated (c.schema.idColumn q.model)) := by
  rw [rowId, haction]
  rcases habsent with habsent | habsent <;> rw [habsent] <;> rfl

/-- A created row with an id in its record has that one. -/
theorem rowId_of_get? (haction : q.action = .create) (hknown : id ≠ .null)
    (hget : record.get? (idFieldOf c.schema q.model) = some (.value id)) :
    rowId c q record = .ok (.known id) := by
  have hpresent : present (some id) = some id := present_eq_some_iff.mpr ⟨rfl, hknown⟩
  have hvalue : (some (Datum.value id) >>= Datum.value?) = some id := rfl
  rw [rowId, haction, hget, hvalue, hpresent]

/-! ## Join tables -/

/-- Whether a join table can be written to does not depend on the id. -/
theorem exists_junctionWrites_eq_ok {junction : JunctionWrite} {writes : List Sql.Write}
    (other : Value) (h : junctionWrites c model id junction = .ok writes) :
    ∃ others, junctionWrites c model other junction = .ok others := by
  unfold junctionWrites at h ⊢
  dsimp only at h ⊢
  split at h
  · exact ⟨_, rfl⟩
  · cases h
  · exact ⟨_, rfl⟩

end Compile

namespace Fragment

variable {d : Dialect}

/-- The text of a fragment is decided by the groups of the values around it. -/
theorem renderFrom_groups (f : Fragment) {values values' before before' : List (ParamGroup × Value)}
    (hvalues : values.map Prod.fst = values'.map Prod.fst)
    (hbefore : before.map Prod.fst = before'.map Prod.fst) :
    renderFrom d values before f = renderFrom d values' before' f :=
  (renderFrom_blank d f rfl rfl).symm.trans (renderFrom_blank d f hvalues hbefore)

/-- The text of a statement does not depend on a value in it. -/
theorem renderFrom_replace (front back : Fragment) (group : ParamGroup) (value other : Value) :
    renderFrom d (params (front ++ .param group value :: back)) []
        (front ++ .param group value :: back) =
      renderFrom d (params (front ++ .param group other :: back)) []
        (front ++ .param group other :: back) := by
  have hvalues : (params (front ++ .param group value :: back)).map Prod.fst =
      (params (front ++ .param group other :: back)).map Prod.fst := by
    simp [params]
  have hnext : (front.params ++ [(group, value)]).map Prod.fst =
      (front.params ++ [(group, other)]).map Prod.fst := by simp
  rw [renderFrom_append, renderFrom_append, renderFrom, renderFrom, List.nil_append,
    renderFrom_groups front hvalues rfl, number_congr hvalues rfl,
    renderFrom_groups back hvalues hnext]

end Fragment

/-! ## Statements -/

variable {c : Compile.Context} {model : String}

/-- A change is written around the id of the row, which stands in one place and is of no account for
the rest. -/
theorem exists_fragment_write (c : Compile.Context) (model : String) (d : Dialect)
    (change : Change) (relation : Relation) (table : String) :
    ∃ front group back, ∀ id : Value,
      (change.write c model id relation table).fragment d = front ++ .param group id :: back := by
  obtain ⟨field, target, disconnects⟩ := change
  cases disconnects with
  | false =>
    exact ⟨Fragment.ofText (d.insertIgnore ++ " ") ++ Fragment.ofName table ++
      Fragment.wrap " (" (Sql.namesFragment [relation.ownJoinColumn model,
        relation.targetJoinColumn model]) ") VALUES (", .data, _, fun id => by
      simp only [Change.write, Sql.Write.fragment, Sql.Write.body, Fragment.ofParam,
        List.append_assoc, Sql.Write.returnsRows, ↓reduceIte, Bool.false_eq_true]
      rfl⟩
  | true =>
    exact ⟨Fragment.ofText "DELETE FROM " ++ Fragment.ofName table ++ Fragment.ofText " WHERE " ++
      Fragment.ofName (relation.ownJoinColumn model) ++ Fragment.ofText " = ", .condition, _,
      fun id => by
        simp only [Change.write, Sql.Write.fragment, Sql.Write.body, Fragment.ofParam,
          List.append_assoc, Sql.Write.returnsRows, ↓reduceIte, Bool.false_eq_true]
        rfl⟩

/-- Under another id a change is written by the same statement with another first argument. -/
theorem withFirstArg_write {d : Dialect} {id other : Value} {change : Change}
    {relation : Relation} {table : String} :
    (change.write c model id relation table).statement d =
      ((change.write c model other relation table).statement d).withFirstArg id := by
  have hsql : ((change.write c model id relation table).statement d).sql =
      ((change.write c model other relation table).statement d).sql := by
    obtain ⟨front, group, back, hwrite⟩ :=
      exists_fragment_write c model d change relation table
    rw [Sql.Write.statement, Sql.Write.statement, Fragment.sql_ofFragment, Fragment.sql_ofFragment,
      hwrite, hwrite]
    exact Fragment.renderFrom_replace front back group id other
  have hrows (id : Value) :
      ((change.write c model id relation table).statement d).returnsRows = false := by
    obtain ⟨field, target, disconnects⟩ := change
    cases disconnects <;> rfl
  have htagged (id : Value) : ((change.write c model id relation table).statement d).Tagged :=
    Statement.tagged_ofFragment _ _ _
  rw [(htagged other).withFirstArg_eq Compile.args_write]
  exact (htagged id).eq_of_parts rfl hsql Compile.args_write ((hrows id).trans (hrows other).symm)
    rfl rfl

/-- What writes a change under one id does so under another by the same statement with another first
argument. -/
theorem Change.WrittenBy.withFirstArg {id other : Value} {change : Change} {w w' : Sql.Write}
    (h : change.WrittenBy c model id w) (h' : change.WrittenBy c model other w') (d : Dialect) :
    w.statement d = (w'.statement d).withFirstArg id := by
  obtain ⟨relation, table, hrelation, -, htable, rfl⟩ := h
  obtain ⟨relation', table', hrelation', -, htable', rfl⟩ := h'
  obtain rfl : relation = relation' := Option.some.inj (hrelation.symm.trans hrelation')
  obtain rfl : table = table' := Option.some.inj (htable.symm.trans htable')
  exact withFirstArg_write

/-- The changes of a record are made under one id by the same statements as under another, with
another first argument. -/
theorem statements_eq_of_writtenBy {id other : Value} {changes : List Change}
    {writes others : List Sql.Write}
    (h : List.Forall₂ (Change.WrittenBy c model id) changes writes)
    (h' : List.Forall₂ (Change.WrittenBy c model other) changes others) (d : Dialect) :
    writes.map (Sql.Write.statement d) = others.map fun w => (w.statement d).withFirstArg id := by
  induction h generalizing others with
  | nil =>
    cases h'
    rfl
  | cons hfirst _ ih =>
    cases h' with
    | cons hfirst' hrest' =>
      rw [List.map_cons, List.map_cons, hfirst.withFirstArg hfirst' d, ih hrest']

/-! ## Mutations -/

/-- The query whose record has an id put into it. -/
def Query.identified (q : Query) (s : Schema) (record : DataRecord) (id : Value) : Query :=
  { q with arguments :=
    { q.arguments with
      data := some (.one (record.put (Compile.idFieldOf s q.model) (.value id))) } }

namespace Compile

variable {q : Query} {record : DataRecord} {filtered : Bool} {id : Value} {p : MutationPlan}

/-- A created row without an id is connected by the same writes as one with an id, up to the id. -/
theorem planMutation_identified (haction : q.action = .create)
    (hdata : q.arguments.data = some (.one record)) (hrelations : relationEntries record ≠ [])
    (habsent : record.get? (idFieldOf c.schema q.model) = none ∨
      record.get? (idFieldOf c.schema q.model) = some (.value .null))
    (hknown : id ≠ .null) (h : planMutation c filtered q = .ok p) :
    p.generatedId = some (c.schema.idColumn q.model) ∧
      ∃ p', planMutation c filtered (q.identified c.schema record id) = .ok p' ∧
        p'.generatedId = none ∧ ∀ d, p'.junctions.map (Sql.Write.statement d) =
          p.junctions.map fun w => (w.statement d).withFirstArg id := by
  cases mutated_of_planMutation h with
  | alone hmain => exact absurd (relationEntries_of_plan hdata (.inl haction) hmain) hrelations
  | @connected record' row junctions main rowId writes hdata' hsplit hsome _ hmain hid hwrites =>
    obtain rfl : record = record' := WriteData.one.inj (Option.some.inj (hdata.symm.trans hdata'))
    obtain rfl : .generated (c.schema.idColumn q.model) = rowId :=
      Except.ok.inj ((rowId_of_absent haction habsent).symm.trans hid)
    refine ⟨rfl, ?_⟩
    obtain ⟨hrow, hasks⟩ := asks_of_splitRecord hsplit
    have hfield (write : RelationWrite) :
        record.get? (idFieldOf c.schema q.model) ≠ some (.relation write) := by
      rcases habsent with habsent | habsent <;> simp [habsent]
    obtain ⟨main', hmain'⟩ : ∃ main',
        planRow c filtered q (row.put (idFieldOf c.schema q.model) (.value id)) = .ok main' :=
      exists_planRow_put haction hmain
    obtain ⟨writes', hwrites'⟩ : ∃ writes',
        junctions.mapM (junctionWrites c q.model id) = .ok writes' := by
      refine exists_mapM_eq_ok fun junction hjunction => ?_
      obtain ⟨others, -, hothers⟩ := ok_of_mem_mapM hwrites hjunction
      exact exists_junctionWrites_eq_ok id hothers
    refine ⟨{ main := main', junctions := writes'.flatten }, ?_, rfl, fun d => ?_⟩
    · have hidentified : (q.identified c.schema record id).arguments.data =
          some (.one (record.put (idFieldOf c.schema q.model) (.value id))) := rfl
      have hget : (record.put (idFieldOf c.schema q.model) (.value id)).get?
          (idFieldOf c.schema q.model) = some (.value id) := by
        rw [Dict.get?_put, if_pos rfl]
      have hknownId : rowId c (q.identified c.schema record id)
          (record.put (idFieldOf c.schema q.model) (.value id)) = .ok (.known id) :=
        rowId_of_get? haction hknown hget
      have hjunctions : ¬ junctions.isEmpty := by simpa using hsome
      have hconnects : ¬ !connects (q.identified c.schema record id).action := by
        simp [Query.identified, haction, connects]
      have hmodel : (q.identified c.schema record id).model = q.model := rfl
      rw [planMutation, hidentified]
      dsimp only
      rw [hmodel, splitRecord_put hfield hsplit, ok_bind]
      dsimp only
      rw [if_neg hjunctions, if_neg hconnects]
      have hmain'' : planRow c filtered (q.identified c.schema record id)
          (row.put (idFieldOf c.schema q.model) (.value id)) = .ok main' := hmain'
      rw [hmain'', ok_bind, hknownId, ok_bind, RowId.bound, hwrites']
      rfl
    · exact statements_eq_of_writtenBy (writtenBy_of_mapM hasks hwrites')
        (writtenBy_of_mapM hasks hwrites) d

end Compile

namespace Compiler

variable {k : Compiler} {q : Query} {record : DataRecord} {m : Mutation} {id : Value}

/-- A created row that is connected without an id in its record waits for a generated one. Bound
when it is known, this leads to the statements that the query has with the id in its record. -/
theorem bindGeneratedId_eq (haction : q.action = .create)
    (hdata : q.arguments.data = some (.one record)) (hrelations : relationEntries record ≠ [])
    (habsent : record.get? (Compile.idFieldOf k.schema q.model) = none ∨
      record.get? (Compile.idFieldOf k.schema q.model) = some (.value .null))
    (hknown : id ≠ .null) (hm : k.mutation q = .ok m) :
    m.generatedId = some (k.schema.idColumn q.model) ∧
      ∃ m', k.mutation (q.identified k.schema record id) = .ok m' ∧ m'.generatedId = none ∧
        m'.relations = m.bindGeneratedId id := by
  obtain ⟨p, hp, rfl⟩ := map_eq_ok_iff.mp hm
  obtain ⟨hgenerated, p', hp', hnone, hjunctions⟩ :=
    Compile.planMutation_identified haction hdata hrelations habsent hknown hp
  refine ⟨hgenerated, _, map_eq_ok_iff.mpr ⟨p', hp', rfl⟩, hnone, ?_⟩
  rw [Compile.MutationPlan.mutation, Compile.MutationPlan.mutation, Mutation.bindGeneratedId,
    List.map_map]
  exact hjunctions k.dialect

/-- Creates a post with an id, under one tag and no longer under another. -/
def createTagged (post : Value) : Query :=
  { model := "Post", action := .create
    arguments :=
      { data := some (.one [("id", .value post), ("tags", .relation
          { connect := [⟨"id", .int 1⟩], disconnect := [⟨"name", .text "old"⟩] })]) } }

/-- A post whose id is left open gets the tags that it would get under the id it ends up with. -/
theorem bindGeneratedId_eq_createTagged :
    ∃ m m', postTags.mutation (createTagged .null) = .ok m ∧ m.generatedId = some "id" ∧
      postTags.mutation (createTagged (.int 7)) = .ok m' ∧ m'.generatedId = none ∧
      m'.relations = m.bindGeneratedId (.int 7) ∧
      m'.relations.map (·.args) = [[.int 7, .int 1], [.int 7, .text "old"]] := by
  have hm : postTags.mutation (createTagged .null) = .ok _ := rfl
  have hseven : Value.int 7 ≠ .null := by simp
  have hdata : (createTagged .null).arguments.data = some (.one _) := rfl
  obtain ⟨hgenerated, m', hm', hnone, hrelations⟩ :=
    bindGeneratedId_eq rfl hdata (List.cons_ne_nil _ _) (.inr rfl) hseven hm
  exact ⟨_, m', hm, hgenerated, hm', hnone, hrelations, hrelations ▸ rfl⟩

end Compiler

end RelationalQuery
