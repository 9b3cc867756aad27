import RelationalQuery.Compile.Filter
import RelationalQuery.Query.Basic
import RelationalQuery.Sql.Write

/-!
# Writes

How the writing actions are planned: inserts of one row or of several, updates, deletes, and inserts
that give way to changes of rows that are there already.

Related rows cannot be connected by one statement. A record that asks for it is refused here and is
taken apart before, where several statements are planned together.
-/

namespace RelationalQuery.Compile

/-- The value of a datum, which must not connect rows. -/
def plainValue (model field : String) : Datum → Except CompileError Value
  | .value value => .ok value
  | .relation _ => .error (.connectsRows field model)

/-- The columns of a record with their values, in the order of the record. -/
def assignmentsOf (c : Context) (model : String) (record : DataRecord) :
    Except CompileError Sql.Assignments :=
  record.mapM fun entry => do
    return (c.schema.columnOf model entry.1, ← plainValue model entry.1 entry.2)

/-- The conditions on the rows of a model that a write is about. -/
def writtenClause (c : Context) (q : Query) : Except CompileError Sql.Clause :=
  let row := Occurrence.plain c q.model
  optionalClause c row [row.name] q.arguments.filter

/-! ## Inserts -/

/-- The insert of one record. -/
def planCreate (c : Context) (q : Query) : Except CompileError Sql.Write :=
  match q.arguments.data with
  | some (.one record) => do
    return .insert (c.schema.tableOf q.model) (← assignmentsOf c q.model record)
  | some (.many _) => .error .severalRecordsToCreate
  | none => .error (.noData q.action)

/-- The records of data, of which a single one counts as a list. -/
def recordsOf : Option WriteData → List DataRecord
  | some (.many records) => records
  | some (.one record) => [record]
  | none => []

/-- The values of a record under the fields of the first record. A field that it lacks is null; it
may not have others. -/
def rowValues (model : String) (fields : List String) (position : Nat) (record : DataRecord) :
    Except CompileError (List Value) :=
  match record.keys.find? fun key => !fields.contains key with
  | some extra => .error (.extraField position extra)
  | none =>
    fields.mapM fun field =>
      match record.get? field with
      | some datum => plainValue model field datum
      | none => .ok .null

/-- The values of all records, the first of which is at a position. -/
def allValues (model : String) (fields : List String) :
    Nat → List DataRecord → Except CompileError (List (List Value))
  | _, [] => .ok []
  | position, record :: rest => do
    let row ← rowValues model fields position record
    return row :: (← allValues model fields (position + 1) rest)

/-- The insert of several records, all with the columns of the first. -/
def planCreateMany (c : Context) (q : Query) : Except CompileError Sql.Write :=
  match recordsOf q.arguments.data with
  | [] => .error .noRecords
  | first :: rest => do
    let rows ← allValues q.model first.keys 0 (first :: rest)
    return .insertRows (c.schema.tableOf q.model) (first.keys.map (c.schema.columnOf q.model)) rows

/-- The insert of a record, or where it is in conflict with a row by the columns of the filter's
keys, the changes to that row. -/
def planUpsert (c : Context) (q : Query) : Except CompileError Sql.Write :=
  match q.arguments.create with
  | none => .error .noCreate
  | some record =>
    match (q.arguments.filter.getD []).keys with
    | [] => .error .noConflictColumns
    | keys => do
      let row ← assignmentsOf c q.model record
      let changes ← match q.arguments.update with
        | some changed => assignmentsOf c q.model changed
        | none => .ok []
      return .upsert (c.schema.tableOf q.model) row (keys.map (c.schema.columnOf q.model)) changes

/-! ## Updates and deletes -/

/-- The update of rows, which may be returned. -/
def planUpdate (c : Context) (q : Query) (returned : Bool) : Except CompileError Sql.Write :=
  match q.arguments.data with
  | some (.one record) => do
    let assignments ← assignmentsOf c q.model record
    if assignments.isEmpty then throw (.nothingToSet q.action)
    return .update (c.schema.tableOf q.model) assignments (← writtenClause c q) returned
  | some (.many _) => .error (.severalRecords q.action)
  | none => .error (.noData q.action)

/-- The delete of rows. Without a filter it is all of them. -/
def planDelete (c : Context) (q : Query) : Except CompileError Sql.Write := do
  return .delete (c.schema.tableOf q.model) (← writtenClause c q)

end RelationalQuery.Compile
