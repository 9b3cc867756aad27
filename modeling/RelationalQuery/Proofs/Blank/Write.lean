import RelationalQuery.Compile.Mutation
import RelationalQuery.Proofs.Blank.Read

/-!
# Writes with blank values

The writes that a query is planned as look the same, once their values are blanked, whether the
query has its own values or blank ones.
-/

namespace RelationalQuery.Compile

open Sql (Assignments Clause Write)

variable {c : Context}

/-! ## Records -/

theorem blank_plainValue (model field : String) (datum : Datum) :
    Value.blank <$> plainValue model field datum.blank =
      Value.blank <$> plainValue model field datum := by
  cases datum with
  | value v => exact congrArg Except.ok (Value.blank_blank v)
  | relation write => rfl

theorem blank_assignmentsOf (model : String) (record : DataRecord) :
    Assignments.blank <$> assignmentsOf c model record.blank =
      Assignments.blank <$> assignmentsOf c model record := by
  refine map_mapM_congr (fun entry => ?_) record
  refine map_bind_congr (blank_plainValue model entry.1 entry.2) fun value value' h => ?_
  exact congrArg (Except.ok <| Prod.mk (c.schema.columnOf model entry.1) ·) h

theorem keys_blank (record : DataRecord) : Dict.keys record.blank = Dict.keys record :=
  Dict.keys_mapValues Datum.blank record

/-- The value of a field, which is null where a record lacks the field. -/
theorem blank_fieldValue (model field : String) (record : DataRecord) :
    Value.blank <$> (match Dict.get? record.blank field with
      | some datum => plainValue model field datum
      | none => .ok .null) =
    Value.blank <$> (match Dict.get? record field with
      | some datum => plainValue model field datum
      | none => .ok .null) := by
  rw [DataRecord.blank, Dict.get?_mapValues]
  cases Dict.get? record field with
  | none => rfl
  | some datum => exact blank_plainValue model field datum

theorem blank_rowValues (model : String) (fields : List String) (position : Nat)
    (record : DataRecord) :
    List.map Value.blank <$> rowValues model fields position record.blank =
      List.map Value.blank <$> rowValues model fields position record := by
  rw [rowValues, rowValues, keys_blank]
  split
  · rfl
  · exact map_mapM_congr_right (fun field => blank_fieldValue model field record) fields

theorem blank_allValues (model : String) (fields : List String) (records : List DataRecord)
    (position : Nat) :
    List.map (List.map Value.blank) <$>
        allValues model fields position (records.map DataRecord.blank) =
      List.map (List.map Value.blank) <$> allValues model fields position records := by
  induction records generalizing position with
  | nil => rfl
  | cons record rest ih =>
    rw [List.map_cons, allValues, allValues]
    refine map_bind_congr (blank_rowValues model fields position record) fun row row' h => ?_
    refine map_bind_congr (ih (position + 1)) fun rows rows' hrows => ?_
    refine congrArg Except.ok ?_
    rw [List.map_cons, List.map_cons, h, hrows]

/-! ## Inserts -/

theorem data_blank (q : Query) : q.blank.arguments.data = q.arguments.data.map WriteData.blank := rfl

theorem blank_planCreate (q : Query) :
    Write.blank <$> planCreate c q.blank = Write.blank <$> planCreate c q := by
  rw [planCreate, planCreate, data_blank]
  cases q.arguments.data with
  | none => rfl
  | some data =>
    cases data with
    | many records => rfl
    | one record =>
      refine map_bind_congr (blank_assignmentsOf q.model record) fun row row' h => ?_
      exact congrArg (Except.ok <| Write.insert (c.schema.tableOf q.model) ·) h

theorem recordsOf_blank (data : Option WriteData) :
    recordsOf (data.map WriteData.blank) = (recordsOf data).map DataRecord.blank := by
  cases data with
  | none => rfl
  | some data => cases data <;> rfl

theorem blank_planCreateMany (q : Query) :
    Write.blank <$> planCreateMany c q.blank = Write.blank <$> planCreateMany c q := by
  rw [planCreateMany, planCreateMany, data_blank, recordsOf_blank]
  cases recordsOf q.arguments.data with
  | nil => rfl
  | cons first rest =>
    rw [List.map_cons]
    dsimp only
    rw [keys_blank]
    refine map_bind_congr (blank_allValues q.model first.keys (first :: rest) 0)
      fun rows rows' h => ?_
    exact congrArg (Except.ok <| Write.insertRows (c.schema.tableOf q.model) _ ·) h

theorem blank_planUpsert (q : Query) :
    Write.blank <$> planUpsert c q.blank = Write.blank <$> planUpsert c q := by
  have hkeys : Dict.keys (q.blank.arguments.filter.getD []) =
      Dict.keys (q.arguments.filter.getD []) := by
    rw [Query.blank, Arguments.blank]
    cases q.arguments.filter with
    | none => rfl
    | some filter =>
      show Dict.keys (Filter.blank filter) = Dict.keys filter
      rw [Filter.blank_eq_mapValues, Dict.keys_mapValues]
  have hwrite {row row' changes changes' : Assignments} (hrow : row.blank = row'.blank)
      (hchanges : changes.blank = changes'.blank) (table : String) (conflict : List String) :
      (Write.upsert table row conflict changes).blank =
        (Write.upsert table row' conflict changes').blank := by
    rw [Write.blank, Write.blank, hrow, hchanges]
  rw [planUpsert, planUpsert, hkeys,
    show q.blank.arguments.create = q.arguments.create.map DataRecord.blank from rfl]
  cases q.arguments.create with
  | none => rfl
  | some record =>
    dsimp only [Option.map_some]
    split
    · rfl
    · refine map_bind_congr (blank_assignmentsOf q.model record) fun row row' hrow => ?_
      rw [show q.blank.arguments.update = q.arguments.update.map DataRecord.blank from rfl]
      cases q.arguments.update with
      | none => exact congrArg Except.ok (hwrite hrow rfl _ _)
      | some changed =>
        refine map_bind_congr (blank_assignmentsOf q.model changed)
          fun changes changes' hchanges => ?_
        exact congrArg Except.ok (hwrite hrow hchanges _ _)

/-! ## Updates and deletes -/

theorem blank_planUpdate (q : Query) (returned : Bool) :
    Write.blank <$> planUpdate c q.blank returned = Write.blank <$> planUpdate c q returned := by
  rw [planUpdate, planUpdate, data_blank]
  cases q.arguments.data with
  | none => rfl
  | some data =>
    cases data with
    | many records => rfl
    | one record =>
      refine map_bind_congr (blank_assignmentsOf q.model record) fun row row' h => ?_
      have hempty : row.isEmpty = row'.isEmpty := by
        rw [← Dict.isEmpty_mapValues Value.blank row, ← Dict.isEmpty_mapValues Value.blank row']
        exact congrArg List.isEmpty h
      dsimp only
      rw [hempty]
      split
      · rfl
      · refine map_bind_congr (blank_optionalClause _ _ q.arguments.filter)
          fun clause clause' hclause => ?_
        show Except.ok (Write.update _ row.blank (Clause.blank clause) returned) =
          Except.ok (Write.update _ row'.blank (Clause.blank clause') returned)
        rw [h, hclause]
        rfl

theorem blank_planDelete (q : Query) :
    Write.blank <$> planDelete c q.blank = Write.blank <$> planDelete c q := by
  rw [planDelete, planDelete]
  refine map_bind_congr (blank_optionalClause _ _ q.arguments.filter) fun clause clause' h => ?_
  exact congrArg (Except.ok <| Write.delete (c.schema.tableOf q.model) ·) h

end RelationalQuery.Compile
