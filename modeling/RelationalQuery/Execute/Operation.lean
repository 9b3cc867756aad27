import RelationalQuery.Compiler
import RelationalQuery.Execute.Record
import RelationalQuery.Execute.Session

/-!
# Operations

What a query can be executed for: its rows, its records, the first record, the number of rows that a
write changes, or the number that a count returns.
-/

namespace RelationalQuery

/-- Executes queries: a compiler, and the adapter that statements are sent to. -/
structure Executor where
  adapter : Adapter
  compiler : Compiler

/-- The executor that compiles for the adapter's own flavour. -/
def Executor.forAdapter (a : Adapter) (schema : Schema) : Executor :=
  ⟨a, { dialect := Dialect.ofName a.flavour.dialectName, schema }⟩

namespace Execute

/-- What a query is executed for. -/
inductive Operation
  | rows (query : Query)
  | records (query : Query)
  /-- The first record. Some actions fail if there is none. -/
  | record (query : Query)
  | write (query : Query)
  | count (query : Query)

/-- What an operation returns. -/
inductive Answer
  | rows (result : ResultSet)
  | records (records : List Record)
  | record (record : Option Record)
  | affected (count : Nat)
  | count (count : Int64)
  deriving Repr

/-- What was compiled, or the failure to compile it. -/
def ofCompiled {α : Type} : Except CompileError α → Session α
  | .ok compiled => return compiled
  | .error error => throw (.compile error)

/-! ## Reads -/

/-- Executes a query for its rows. -/
def queryRows (x : Executor) (channel : Channel) (q : Query) : Session ResultSet := do
  fetch x.adapter channel (← ofCompiled (x.compiler.statement q))

/-- Executes a query for its records. -/
def queryRecords (x : Executor) (channel : Channel) (q : Query) : Session (List Record) := do
  let statement ← ofCompiled (x.compiler.statement q)
  return records statement (← fetch x.adapter channel statement)

/-- Executes a query for its first record. -/
def queryRecord (x : Executor) (channel : Channel) (q : Query) : Session (Option Record) := do
  match ← queryRecords x channel q with
  | first :: _ => return some first
  | [] => if q.action.isOrThrow then throw (.recordNotFound q.model q.action) else return none

/-- The number that an answer holds in its first cell. No rows count as zero. -/
def countOf (r : ResultSet) : Except ExecutionError Int64 :=
  match ((r.rows.head? >>= List.head?).getD (.int 0)).toInt with
  | .ok n => .ok n
  | .error failure => .error (.conversion (r.names.headD "") failure.message)

/-- Executes a query for the number that it counts. -/
def queryCount (x : Executor) (channel : Channel) (q : Query) : Session Int64 := do
  match countOf (← queryRows x channel q) with
  | .ok n => return n
  | .error error => throw error

/-! ## Writes -/

/-- The id of a created row: that of the first row returned, else the last id that was inserted, as
a number if it is one. -/
def generatedId (r : ResultSet) (column : String) : Option Value :=
  let returned := do
    let index ← r.columnIndex column
    let row ← r.rows.head?
    Compile.present row[index]?
  match returned with
  | some id => some id
  | none =>
    r.lastInsertId.map fun id =>
      match Value.decimalInt? id.toList >>= Value.int64? with
      | some n => .int n
      | none => .text id

/-- Sends statements one after the other. -/
def sendAll (a : Adapter) (channel : Channel) : List Statement → Session Unit
  | [] => return
  | statement :: rest => do
    let _ ← sendExecute a channel statement
    sendAll a channel rest

/-- Sends the statement of a write and returns the number of rows: those that it returned, else
those that the adapter counted. -/
def sendMain (a : Adapter) (channel : Channel) (s : Statement) : Session Nat :=
  if s.returnsRows then do return (← fetch a channel s).length
  else sendExecute a channel s

/-- Sends the statements of a mutation and returns the number of rows of its main one. -/
def sendMutation (a : Adapter) (channel : Channel) (m : Mutation) : Session Nat :=
  match m.generatedId with
  | none => do
    let affected ← sendMain a channel m.main
    sendAll a channel m.relations
    return affected
  | some column => do
    let result ← fetch a channel m.main
    match generatedId result column with
    | none => throw (.missingGeneratedId column)
    | some id =>
      sendAll a channel (m.bindGeneratedId id)
      return max result.length 1

/-- Executes a write over the connection. Where it needs several statements they are sent in one
transaction. -/
def writeAlone (x : Executor) (q : Query) : Session Nat := do
  let mutation ← ofCompiled (x.compiler.mutation q)
  if mutation.relations.isEmpty then sendMutation x.adapter .connection mutation
  else
    begin x.adapter none
    close x.adapter (← attempt (sendMutation x.adapter .transaction mutation))

/-- Executes a write in the open transaction. -/
def writeInside (x : Executor) (q : Query) : Session Nat := do
  sendMutation x.adapter .transaction (← ofCompiled (x.compiler.mutation q))

/-- Performs an operation over the connection or in the open transaction. -/
def perform (x : Executor) (channel : Channel) : Operation → Session Answer
  | .rows q => do return .rows (← queryRows x channel q)
  | .records q => do return .records (← queryRecords x channel q)
  | .record q => do return .record (← queryRecord x channel q)
  | .count q => do return .count (← queryCount x channel q)
  | .write q =>
    match channel with
    | .connection => do return .affected (← writeAlone x q)
    | .transaction => do return .affected (← writeInside x q)

end Execute

end RelationalQuery
