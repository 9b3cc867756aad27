import RelationalQuery.Adapter.Basic
import RelationalQuery.Execute.Coercion

/-!
# Sessions

Work with an adapter is a sequence of calls, each of which may depend on the answers to those before
it. Every call is added to the history before the adapter answers, so the history of a piece of work
shows all that was sent, also where the work fails.
-/

namespace RelationalQuery.Execute

/-- Work with an adapter, which adds its calls to the history and may fail. -/
abbrev Session := ExceptT ExecutionError (StateM History)

/-- The answer of an adapter, whose errors are passed on unchanged. -/
def ofAdapter {α : Type} : Except AdapterError α → Session α
  | .ok answer => return answer
  | .error error => throw (.adapter error)

/-- Makes a call, which is answered by what the adapter says after the history so far. -/
def call {α : Type} (made : Call) (answer : History → Except AdapterError α) : Session α := do
  let history ← get
  set (history ++ [made])
  ofAdapter (answer history)

/-- Work whose failure is an answer like any other. -/
def attempt {α : Type} (work : Session α) : Session (Except ExecutionError α) :=
  ExceptT.mk do return .ok (← ExceptT.run work)

/-- Sends a statement that returns rows. -/
def sendQuery (a : Adapter) (channel : Channel) (s : Statement) : Session ResultSet :=
  call (.query channel s) fun history => a.query history channel s

/-- Sends a statement that returns the number of rows it changed. -/
def sendExecute (a : Adapter) (channel : Channel) (s : Statement) : Session Nat :=
  call (.execute channel s) fun history => a.execute history channel s

/-- Sends a statement and reads the rows as their columns declare them. -/
def fetch (a : Adapter) (channel : Channel) (s : Statement) : Session ResultSet := do
  let answer ← sendQuery a channel s
  match coerce answer with
  | .ok coerced => return coerced
  | .error error => throw error

/-- Opens a transaction, at a level that its flavour supports. -/
def begin (a : Adapter) (level : Option IsolationLevel) : Session Unit := do
  if let some wanted := level then ofAdapter (wanted.checkSupported a.flavour)
  call (.begin level) fun history => a.begin history level

/-- Ends a transaction by what came of the work in it: a success is committed and a failure rolled
back. The failure is passed on, whether or not the transaction could be rolled back. -/
def close {α : Type} (a : Adapter) : Except ExecutionError α → Session α
  | .ok result => do
    call .commit a.commit
    return result
  | .error error => do
    let _ ← attempt (call .rollback a.rollback)
    throw error

end RelationalQuery.Execute
