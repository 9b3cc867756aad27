import Mathlib.Data.List.Forall2
import RelationalQuery.Compiler
import RelationalQuery.Proofs.Compile.Plan
import RelationalQuery.Proofs.Sql.Params

/-!
# Mutations and statements agree

A query can be compiled to one statement, by `statement`, or to a mutation, by `mutation`, which
alone can connect rows over join tables. `mutation_agrees` relates the two. A query that connects
nothing has the same statement in both ways. A create or update that connects rows has none by
itself; its mutation is the statement of the query without these parts of the record, and one
statement on a join table for each row to connect or disconnect. Other actions cannot connect rows.

## Shape of a record

The entries of a record that are relations are taken out of it, the others keep their order. What
the entries that are taken out ask for is listed as `Change`s, one for each target, in the order in
which their statements are sent.
-/

namespace RelationalQuery

variable {c : Compile.Context} {model : String} {record row : DataRecord}

/-! ## What a record asks for -/

/-- Whether a datum connects rows or disconnects them. -/
def Datum.isRelation : Datum → Bool
  | value _ => false
  | relation _ => true

/-- The entries of a record that the row itself holds. -/
def rowEntries (record : DataRecord) : DataRecord := record.filter fun entry => !entry.2.isRelation

/-- The entries of a record that are written to join tables. -/
def relationEntries (record : DataRecord) : DataRecord :=
  record.filter fun entry => entry.2.isRelation

/-- A target that is to be connected over the relation of a field, or to be disconnected. -/
structure Change where
  field : String
  target : Target
  disconnects : Bool

/-- The changes that a field asks for: its targets to connect, then those to disconnect. -/
def Datum.changes (field : String) : Datum → List Change
  | value _ => []
  | relation write =>
    write.connect.map (⟨field, ·, false⟩) ++ write.disconnect.map (⟨field, ·, true⟩)

/-- The changes that a record asks for, in the order of its entries. -/
def changesOf (record : DataRecord) : List Change :=
  record.flatMap fun entry => entry.2.changes entry.1

namespace Change

/-- The write of a change to the join table of its relation, for the row of a model with an id. -/
def write (c : Compile.Context) (model : String) (id : Value) (relation : Relation) (table : String)
    (change : Change) : Sql.Write :=
  let own := relation.ownJoinColumn model
  let other := relation.targetJoinColumn model
  let target := Compile.targetReference c relation.target change.target
  if change.disconnects then .disconnect table own other id target
  else .connect table own other id target

/-- The word that the statement of a change begins with. -/
def opening (change : Change) : String := if change.disconnects then "DELETE " else "INSERT "

/-- Whether a write is that of a change, for the row of a model with an id. -/
def WrittenBy (c : Compile.Context) (model : String) (id : Value) (change : Change)
    (w : Sql.Write) : Prop :=
  ∃ relation table, c.schema.relation? model change.field = some relation ∧
    relation.isManyToMany ∧ relation.joinTable = some table ∧
    w = change.write c model id relation table

/-- Whether a statement makes a change, for the row of a model with an id: it inserts a row into the
join table or deletes one there, and binds the id of the row and the value of the target. -/
structure MadeBy (k : Compiler) (model : String) (id : Value) (change : Change) (s : Statement) :
    Prop where
  written : ∃ w, change.WrittenBy k.context model id w ∧ s = w.statement k.dialect
  opening : change.opening.toList <+: s.sql.toList
  args : s.args = [id, change.target.value]

/-- The values of a statement that makes a change have their own tags. -/
theorem MadeBy.tagged {k : Compiler} {model : String} {id : Value} {change : Change} {s : Statement}
    (h : change.MadeBy k model id s) : s.Tagged := by
  obtain ⟨w, -, rfl⟩ := h.written
  exact Statement.tagged_ofFragment _ _ _

end Change

/-! ## Taking a record apart -/

namespace Compile

/-- Whether a junction write is what an entry of a record asks for. -/
def Asks (c : Context) (model : String) (entry : String × Datum) (junction : JunctionWrite) : Prop :=
  connectable c model entry.1 = .ok junction.relation ∧ junction.field = entry.1 ∧
    entry.2 = .relation junction.write

/-- A record falls apart into the entries of the row, and what its other entries ask for. -/
theorem asks_of_splitRecord {junctions : List JunctionWrite}
    (h : splitRecord c model record = .ok (row, junctions)) :
    row = rowEntries record ∧ List.Forall₂ (Asks c model) (relationEntries record) junctions := by
  induction record generalizing row junctions with
  | nil =>
    obtain ⟨rfl, rfl⟩ := Prod.mk.inj (Except.ok.inj h)
    exact ⟨rfl, .nil⟩
  | cons entry rest ih =>
    obtain ⟨field, datum⟩ := entry
    cases datum with
    | value value =>
      rw [splitRecord, bind_eq_ok_iff] at h
      obtain ⟨⟨row', junctions'⟩, hrest, h⟩ := h
      obtain ⟨rfl, rfl⟩ := Prod.mk.inj (Except.ok.inj h)
      obtain ⟨rfl, hasks⟩ := ih hrest
      exact ⟨rfl, hasks⟩
    | relation write =>
      rw [splitRecord, bind_eq_ok_iff] at h
      obtain ⟨relation, hrelation, h⟩ := h
      rw [bind_eq_ok_iff] at h
      obtain ⟨⟨row', junctions'⟩, hrest, h⟩ := h
      obtain ⟨rfl, rfl⟩ := Prod.mk.inj (Except.ok.inj h)
      obtain ⟨rfl, hasks⟩ := ih hrest
      exact ⟨rfl, .cons ⟨hrelation, rfl, rfl⟩ hasks⟩

/-- A record without relations is the row. -/
theorem splitRecord_of_plain (h : relationEntries record = []) :
    splitRecord c model record = .ok (record, []) := by
  induction record with
  | nil => rfl
  | cons entry rest ih =>
    obtain ⟨field, datum⟩ := entry
    cases datum with
    | value value =>
      rw [splitRecord, ih h]
      rfl
    | relation write => cases h

/-- A record cannot be taken apart where one of its relations is refused. -/
theorem exists_of_splitRecord_eq_error {error : CompileError}
    (h : splitRecord c model record = .error error) :
    ∃ entry ∈ relationEntries record, connectable c model entry.1 = .error error := by
  induction record with
  | nil => cases h
  | cons entry rest ih =>
    obtain ⟨field, datum⟩ := entry
    cases datum with
    | value value =>
      rw [splitRecord, bind_eq_error_iff] at h
      rcases h with h | ⟨parts, -, h⟩
      · exact ih h
      · cases h
    | relation write =>
      rw [splitRecord, bind_eq_error_iff] at h
      rcases h with h | ⟨relation, -, h⟩
      · exact ⟨(field, .relation write), List.mem_cons_self, h⟩
      · rcases bind_eq_error_iff.mp h with h | ⟨parts, -, h⟩
        · obtain ⟨entry, hentry, hrefused⟩ := ih h
          exact ⟨entry, List.mem_cons_of_mem _ hentry, hrefused⟩
        · cases h

/-- What can be connected is a relation of the model over a join table. -/
theorem relation?_of_connectable {field : String} {relation : Relation}
    (h : connectable c model field = .ok relation) :
    c.schema.relation? model field = some relation ∧ relation.isManyToMany := by
  rw [connectable] at h
  split at h
  · cases h
  · next found hfound =>
    split at h
    · next hmany =>
      rw [bind_eq_ok_iff] at h
      obtain ⟨-, -, h⟩ := h
      obtain rfl := Except.ok.inj h
      exact ⟨hfound, hmany⟩
    · cases h

/-- A model with a relation is registered, so it is accepted. -/
theorem checkModel_of_relation? {field : String} {relation : Relation}
    (h : c.schema.relation? model field = some relation) : c.checkModel model = .ok () := by
  obtain ⟨found, hfound, -⟩ := Option.bind_eq_some_iff.mp h
  have hregistered : c.schema.isRegistered model = true := by
    rw [Schema.isRegistered, hfound]
    rfl
  have haccepts : c.accepts model = true := by
    simp only [Context.accepts, hregistered, Bool.or_true, Bool.true_or]
  rw [Context.checkModel, if_pos haccepts]

/-- A record that connects rows names a relation of its model, so the model is accepted. -/
theorem checkModel_of_asks {entries : DataRecord} {junctions : List JunctionWrite}
    (h : List.Forall₂ (Asks c model) entries junctions) (hsome : junctions ≠ []) :
    c.checkModel model = .ok () := by
  cases h with
  | nil => exact absurd rfl hsome
  | cons hasked _ =>
    obtain ⟨hrelation, -⟩ := relation?_of_connectable hasked.1
    exact checkModel_of_relation? hrelation

/-! ## The writes to join tables -/

/-- The writes to one join table are those of the changes that an entry asks for. -/
theorem writtenBy_of_junctionWrites {entry : String × Datum} {junction : JunctionWrite} {id : Value}
    {writes : List Sql.Write} (hasks : Asks c model entry junction)
    (h : junctionWrites c model id junction = .ok writes) :
    List.Forall₂ (Change.WrittenBy c model id) (entry.2.changes entry.1) writes := by
  obtain ⟨hconnectable, hfield, hdatum⟩ := hasks
  obtain ⟨hrelation, hmany⟩ := relation?_of_connectable hconnectable
  rw [hdatum, Datum.changes]
  unfold junctionWrites at h
  extract_lets relation own other targets at h
  split at h
  · next hnone =>
    obtain rfl := Except.ok.inj h
    obtain ⟨hconnect, hdisconnect⟩ := List.append_eq_nil_iff.mp hnone
    rw [hconnect, hdisconnect]
    exact .nil
  · cases h
  · next table htable _ =>
    obtain rfl := Except.ok.inj h
    refine List.rel_append ?_ ?_
    · rw [List.forall₂_map_left_iff, List.forall₂_map_right_iff, List.forall₂_same]
      exact fun target _ => ⟨junction.relation, table, hrelation, hmany, htable, rfl⟩
    · rw [List.forall₂_map_left_iff, List.forall₂_map_right_iff, List.forall₂_same]
      exact fun target _ => ⟨junction.relation, table, hrelation, hmany, htable, rfl⟩

/-- The writes to all join tables are those of the changes that a record asks for. -/
theorem writtenBy_of_mapM {junctions : List JunctionWrite} {id : Value}
    {writes : List (List Sql.Write)}
    (hasks : List.Forall₂ (Asks c model) (relationEntries record) junctions)
    (h : junctions.mapM (junctionWrites c model id) = .ok writes) :
    List.Forall₂ (Change.WrittenBy c model id) (changesOf record) writes.flatten := by
  induction record generalizing junctions writes with
  | nil =>
    cases hasks
    obtain rfl : [] = writes := Except.ok.inj h
    exact .nil
  | cons entry rest ih =>
    obtain ⟨field, datum⟩ := entry
    cases datum with
    | value value => exact ih hasks h
    | relation write =>
      cases hasks with
      | cons hfirst hrest =>
        rw [List.mapM_cons, bind_eq_ok_iff] at h
        obtain ⟨first, hwrites, h⟩ := h
        rw [bind_eq_ok_iff] at h
        obtain ⟨others, hothers, h⟩ := h
        obtain rfl : first :: others = writes := Except.ok.inj h
        exact List.rel_append (writtenBy_of_junctionWrites hfirst hwrites) (ih hrest hothers)

/-- The id of a target is its value, whether or not it has to be looked up. -/
theorem bound_targetReference (target : Target) :
    (targetReference c model target).bound = target.value := by
  unfold targetReference
  extract_lets idColumn column
  split <;> rfl

/-- The values of a write to a join table, in every dialect. -/
theorem args_write {d : Dialect} {id : Value} {change : Change} {relation : Relation}
    {table : String} :
    ((change.write c model id relation table).statement d).args = [id, change.target.value] := by
  obtain ⟨field, target, disconnects⟩ := change
  -- both values are of one group, so they are bound in the order of the text
  have harguments (group : ParamGroup) (other : Value) :
      Fragment.arguments d.isNumbered [(group, id), (group, other)] = [id, other] := by
    cases d <;> cases group <;> rfl
  rw [Sql.Write.statement, Fragment.args_ofFragment]
  cases disconnects with
  | false =>
    rw [← harguments .data]
    refine congrArg _ ?_
    cases d <;> simp [Change.write, Sql.Write.fragment, Sql.Write.body, Sql.Write.returnsRows,
      bound_targetReference, Dialect.ignoreConflict]
  | true =>
    rw [← harguments .condition]
    refine congrArg _ ?_
    simp [Change.write, Sql.Write.fragment, Sql.Write.body, Sql.Write.returnsRows,
      bound_targetReference]

/-- The beginning of a write to a join table, in every dialect. -/
theorem opening_write {d : Dialect} {id : Value} {change : Change} {relation : Relation}
    {table : String} :
    change.opening.toList <+: ((change.write c model id relation table).statement d).sql.toList := by
  obtain ⟨field, target, disconnects⟩ := change
  -- the statement begins with the words of its fragment, and these with the word that is asked for
  have hprefix {w : Sql.Write} {words word : String}
      (hhead : (w.fragment d).head? = some (.text words))
      (hwords : word.toList <+: words.toList) : word.toList <+: (w.statement d).sql.toList := by
    obtain ⟨rest, htext⟩ := Fragment.toList_renderFrom (d := d) hhead (w.fragment d).params []
    rw [Sql.Write.statement, Fragment.sql_ofFragment, htext]
    exact hwords.trans (List.prefix_append words.toList rest)
  cases disconnects with
  | false =>
    have hinsert : "INSERT ".toList <+: (d.insertIgnore ++ " ").toList := by
      cases d <;> decide
    exact hprefix rfl hinsert
  | true =>
    have hdelete : "DELETE ".toList <+: "DELETE FROM ".toList := by decide
    exact hprefix rfl hdelete

/-- The statement of a write to a join table makes its change, in every dialect. -/
theorem madeBy_statement {k : Compiler} {id : Value} {change : Change} {w : Sql.Write}
    (h : change.WrittenBy k.context model id w) :
    change.MadeBy k model id (w.statement k.dialect) := by
  obtain ⟨relation, table, hrelation, hmany, htable, rfl⟩ := h
  exact ⟨⟨_, ⟨relation, table, hrelation, hmany, htable, rfl⟩, rfl⟩, opening_write, args_write⟩

/-! ## The write of the row -/

/-- A record that becomes the assignments of one statement has no relations. -/
theorem relationEntries_of_assignmentsOf {assignments : Sql.Assignments}
    (h : assignmentsOf c model record = .ok assignments) : relationEntries record = [] := by
  induction record generalizing assignments with
  | nil => rfl
  | cons entry rest ih =>
    obtain ⟨field, datum⟩ := entry
    rw [assignmentsOf, List.mapM_cons, bind_eq_ok_iff] at h
    obtain ⟨first, hfirst, h⟩ := h
    rw [bind_eq_ok_iff] at h
    obtain ⟨others, hothers, -⟩ := h
    cases datum with
    | value value => exact ih hothers
    | relation write => cases hfirst

variable {filtered : Bool} {q : Query}

/-- A create or update of one statement has no relations in its record. -/
theorem relationEntries_of_plan {p : Plan} (hdata : q.arguments.data = some (.one record))
    (haction : q.action = .create ∨ q.action = .update) (h : plan c filtered q = .ok p) :
    relationEntries record = [] := by
  rw [plan, bind_eq_ok_iff] at h
  obtain ⟨-, -, h⟩ := h
  rcases haction with haction | haction
  · rw [haction] at h
    obtain ⟨w, hw, -⟩ := bind_eq_ok_iff.mp h
    rw [planCreate, hdata] at hw
    obtain ⟨assignments, hassignments, -⟩ := bind_eq_ok_iff.mp hw
    exact relationEntries_of_assignmentsOf hassignments
  · rw [haction] at h
    obtain ⟨w, hw, -⟩ := bind_eq_ok_iff.mp h
    rw [planUpdate, hdata] at hw
    obtain ⟨assignments, hassignments, -⟩ := bind_eq_ok_iff.mp hw
    exact relationEntries_of_assignmentsOf hassignments

end Compile

/-- The query of a row alone, without what its record connects. An update that sets nothing else
reads the row. -/
def Query.ofRow (q : Query) (record : DataRecord) : Query :=
  if q.action = .update ∧ rowEntries record = [] then
    { model := q.model, action := .findMany, arguments := { filter := q.arguments.filter } }
  else { q with arguments := { q.arguments with data := some (.one (rowEntries record)) } }

namespace Compile

/-- The plan of the row of a record is that of the query of the row, whose model is accepted. -/
theorem plan_ofRow {main : Plan} (haccepted : c.checkModel q.model = .ok ())
    (h : planRow c filtered q (rowEntries record) = .ok main) :
    plan c filtered (q.ofRow record) = .ok main := by
  rw [planRow] at h
  rw [Query.ofRow]
  simp only [List.isEmpty_iff] at h
  split at h
  · next hnothing =>
    rw [if_pos hnothing, plan, haccepted]
    exact h
  · next hsomething =>
    rw [if_neg hsomething]
    exact h

/-- The id that is bound is a null where the database generates it, and nowhere else. -/
theorem bound_eq_null_iff {id : RowId} (h : rowId c q record = .ok id) :
    id.bound = .null ↔ id.column?.isSome := by
  have hpresent {value : Value} {found : Option Value} (hfound : present found = some value) :
      value ≠ .null := (present_eq_some_iff.mp hfound).2
  unfold rowId at h
  extract_lets field at h
  split at h
  · split at h
    · next value hvalue =>
      obtain rfl := Except.ok.inj h
      exact ⟨fun hnull => absurd hnull (hpresent hvalue), fun hnone => absurd hnone Bool.noConfusion⟩
    · obtain rfl := Except.ok.inj h
      exact ⟨fun _ => rfl, fun _ => rfl⟩
  · split at h
    · next value hvalue =>
      obtain rfl := Except.ok.inj h
      exact ⟨fun hnull => absurd hnull (hpresent hvalue), fun hnone => absurd hnone Bool.noConfusion⟩
    · cases h

end Compile

namespace Compiler

/-- Whether a mutation is that of a query whose record connects rows: the statement of the row
alone, followed by the statements of the changes that the record asks for. All of them bind the id of
the row, which is a null if and only if the database generates it. -/
structure Connects (k : Compiler) (q : Query) (record : DataRecord) (m : Mutation) : Prop where
  main : k.statement (q.ofRow record) = .ok m.main
  relations : ∃ id, Compile.rowId k.context q record = .ok id ∧ m.generatedId = id.column? ∧
    (id.bound = .null ↔ m.generatedId.isSome) ∧
    List.Forall₂ (Change.MadeBy k q.model id.bound) (changesOf record) m.relations

variable {k : Compiler} {q : Query}

/-- A query that connects nothing has the same statement in both ways. -/
theorem mutation_eq_statement
    (h : ∀ record, q.arguments.data = some (.one record) → relationEntries record = []) :
    k.mutation q = (fun main => { main }) <$> k.statement q := by
  have hplan : Compile.planMutation k.context (k.dialect.has .filteredAggregates) q =
      (fun main => { main }) <$> Compile.plan k.context (k.dialect.has .filteredAggregates) q := by
    rw [Compile.planMutation]
    split
    · next record hdata =>
      rw [Compile.splitRecord_of_plain (h record hdata)]
      rfl
    · rfl
  rw [mutation, hplan, statement]
  cases Compile.plan k.context (k.dialect.has .filteredAggregates) q <;> rfl

/-- A create or update that connects rows has no statement of its own. -/
theorem statement_eq_error {record : DataRecord} (hdata : q.arguments.data = some (.one record))
    (hrelations : relationEntries record ≠ []) (haction : q.action = .create ∨ q.action = .update) :
    ∃ error, k.statement q = .error error := by
  rw [statement]
  cases hplan : Compile.plan k.context (k.dialect.has .filteredAggregates) q with
  | error error => exact ⟨error, rfl⟩
  | ok p => exact absurd (Compile.relationEntries_of_plan hdata haction hplan) hrelations

/-- The mutation of a create or update that connects rows, if there is one, is made of the row's
statement and of those of the changes. -/
theorem connects_of_mutation {record : DataRecord} {m : Mutation}
    (hdata : q.arguments.data = some (.one record)) (hrelations : relationEntries record ≠ [])
    (haction : q.action = .create ∨ q.action = .update) (h : k.mutation q = .ok m) :
    k.Connects q record m := by
  obtain ⟨p, hp, rfl⟩ := map_eq_ok_iff.mp h
  cases Compile.mutated_of_planMutation hp with
  | alone hmain => exact absurd (Compile.relationEntries_of_plan hdata haction hmain) hrelations
  | @connected record' row junctions main id writes hdata' hsplit hsome _ hmain hid hwrites =>
    obtain rfl : record = record' := WriteData.one.inj (Option.some.inj (hdata.symm.trans hdata'))
    obtain ⟨rfl, hasks⟩ := Compile.asks_of_splitRecord hsplit
    have haccepted := Compile.checkModel_of_asks hasks hsome
    refine ⟨?_, id, hid, rfl, Compile.bound_eq_null_iff hid, ?_⟩
    · rw [statement, Compile.plan_ofRow haccepted hmain]
      rfl
    · show List.Forall₂ _ _ (writes.flatten.map _)
      rw [List.forall₂_map_right_iff]
      exact (Compile.writtenBy_of_mapM hasks hwrites).imp fun _ _ => Compile.madeBy_statement

/-- A write of a join table is that of a change. -/
theorem exists_writtenBy_of_mem_junctions {c : Compile.Context} {filtered : Bool}
    {m : Compile.MutationPlan} {w : Sql.Write} (h : Compile.planMutation c filtered q = .ok m)
    (hw : w ∈ m.junctions) : ∃ (id : Value) (change : Change), change.WrittenBy c q.model id w := by
  cases Compile.mutated_of_planMutation h with
  | alone hmain => cases hw
  | connected hdata hsplit hsome haction hrow hid hwrites =>
    obtain ⟨-, hasks⟩ := Compile.asks_of_splitRecord hsplit
    have hwritten : List.Forall₂
        (fun w change => (∃ id change, Change.WrittenBy c q.model id change w) ∧ True) _ _ :=
      ((Compile.writtenBy_of_mapM hasks hwrites).imp fun change w h => ⟨⟨_, change, h⟩, trivial⟩).flip
    exact ((List.forall₂_and_left _ _).mp hwritten).1 w hw

/-- A statement on a join table makes a change. -/
theorem exists_madeBy_of_mem_relations {m : Mutation} {s : Statement} (h : k.mutation q = .ok m)
    (hs : s ∈ m.relations) : ∃ (id : Value) (change : Change), change.MadeBy k q.model id s := by
  obtain ⟨p, hp, rfl⟩ := map_eq_ok_iff.mp h
  obtain ⟨w, hw, rfl⟩ := List.mem_map.mp hs
  obtain ⟨id, change, hwritten⟩ := exists_writtenBy_of_mem_junctions hp hw
  exact ⟨id, change, Compile.madeBy_statement hwritten⟩

/-- The values of a statement on a join table have their own tags. -/
theorem tagged_of_mem_relations {m : Mutation} {s : Statement} (h : k.mutation q = .ok m)
    (hs : s ∈ m.relations) : s.Tagged := by
  obtain ⟨id, change, hmade⟩ := exists_madeBy_of_mem_relations h hs
  exact hmade.tagged

/-- An action other than create and update does not connect rows. -/
theorem mutation_eq_error {record : DataRecord} (hdata : q.arguments.data = some (.one record))
    (hrelations : relationEntries record ≠ [])
    (haction : ¬ (q.action = .create ∨ q.action = .update)) :
    ∃ error, k.mutation q = .error error ∧ (error = .cannotConnect q.action ∨
      ∃ entry ∈ relationEntries record,
        Compile.connectable k.context q.model entry.1 = .error error) := by
  have hplan : ∃ error,
      Compile.planMutation k.context (k.dialect.has .filteredAggregates) q = .error error ∧
        (error = .cannotConnect q.action ∨ ∃ entry ∈ relationEntries record,
          Compile.connectable k.context q.model entry.1 = .error error) := by
    rw [Compile.planMutation, hdata]
    dsimp only
    cases hsplit : Compile.splitRecord k.context q.model record with
    | error error =>
      exact ⟨error, rfl, Or.inr (Compile.exists_of_splitRecord_eq_error hsplit)⟩
    | ok parts =>
      obtain ⟨row, junctions⟩ := parts
      obtain ⟨-, hasks⟩ := Compile.asks_of_splitRecord hsplit
      have hsome : junctions.isEmpty = false := by
        rw [List.isEmpty_eq_false_iff]
        rintro rfl
        exact hrelations (List.forall₂_nil_right_iff.mp hasks)
      have hother : Compile.connects q.action = false := by
        cases hq : q.action <;> simp [hq, Compile.connects] at haction ⊢
      refine ⟨.cannotConnect q.action, ?_, Or.inl rfl⟩
      show (if junctions.isEmpty = true then _ else _) = _
      rw [hsome, hother]
      rfl
  obtain ⟨error, hp, hreason⟩ := hplan
  refine ⟨error, ?_, hreason⟩
  rw [mutation, hp]
  rfl

/-- A query has the same statement as a mutation and by itself, unless its record connects rows.
Then it has none by itself. As a mutation, a create or update is the statement of its row and one
statement for each change, in order; other actions are refused. -/
theorem mutation_agrees (k : Compiler) (q : Query) :
    ((∀ record, q.arguments.data = some (.one record) → relationEntries record = []) →
      k.mutation q = (fun main => { main }) <$> k.statement q) ∧
    ∀ record, q.arguments.data = some (.one record) → relationEntries record ≠ [] →
      (q.action = .create ∨ q.action = .update →
        (∃ error, k.statement q = .error error) ∧
          ∀ m, k.mutation q = .ok m → k.Connects q record m) ∧
      (¬ (q.action = .create ∨ q.action = .update) →
        ∃ error, k.mutation q = .error error ∧ (error = .cannotConnect q.action ∨
          ∃ entry ∈ relationEntries record,
            Compile.connectable k.context q.model entry.1 = .error error)) := by
  refine ⟨mutation_eq_statement, fun record hdata hrelations => ⟨fun haction => ?_, ?_⟩⟩
  · refine ⟨statement_eq_error hdata hrelations haction, fun m hm => ?_⟩
    exact connects_of_mutation hdata hrelations haction hm
  · exact mutation_eq_error hdata hrelations

/-- Posts, which are connected with tags over a join table. -/
def postTags : Compiler :=
  { dialect := .mysql
    schema := ⟨[("Post", { name := "Post", table := "posts", relations := [("tags",
        { name := "tags", cardinality := .manyToMany, target := "Tag",
          joinTable := some "post_tags" })] }),
      ("Tag", { name := "Tag", table := "tags" })]⟩ }

/-- Moves a post from one tag to another under a new title. -/
def retag (post title old new : Value) : Query :=
  { model := "Post", action := .update
    arguments :=
      { filter := some [("id", .literal post)]
        data := some (.one [("tags", .relation
          { connect := [⟨"id", new⟩], disconnect := [⟨"name", old⟩] }), ("title", .value title)]) } }

/-- A post that is moved gets its title by the statement of the row. -/
theorem mutation_agrees_retag :
    ∃ m, postTags.mutation (retag (.int 1) (.text "a") (.text "old") (.int 2)) = .ok m ∧
      m.relations.map (·.args) = [[.int 1, .int 2], [.int 1, .text "old"]] ∧
      postTags.statement { model := "Post", action := .update, arguments :=
        { filter := some [("id", .literal (.int 1))]
          data := some (.one [("title", .value (.text "a"))]) } } = .ok m.main := by
  have hmutation :
      postTags.mutation (retag (.int 1) (.text "a") (.text "old") (.int 2)) = .ok _ := rfl
  have hagrees := (mutation_agrees postTags
    (retag (.int 1) (.text "a") (.text "old") (.int 2))).2 _ rfl (List.cons_ne_nil _ _)
  exact ⟨_, hmutation, rfl, ((hagrees.1 (Or.inr rfl)).2 _ hmutation).main⟩

end Compiler

end RelationalQuery
