import RelationalQuery.Execute.Operation

/-!
# Transactions

A `Procedure` is a piece of work in a transaction, as data: it performs operations one after the
other, each of which may depend on the answers so far, and ends with a result, with an error, or by
breaking down. The work is returned by a `Callback`, which is called when the transaction has begun
and may break down as well.

`runInTransaction` calls a callback and does its work between the beginning and the end of a
transaction, and commits it only if the work ends with a result.
-/

namespace RelationalQuery.Execute

/-- A piece of work in a transaction. -/
inductive Procedure (α : Type)
  | done (result : α)
  | fail (error : ExecutionError)
  /-- The work breaks down without an error of its own. -/
  | panic
  | perform (operation : Operation) (next : Except ExecutionError Answer → Procedure α)

/-- The function that is handed in for a transaction. It returns the work that is to be done. To call
it may already perform operations, and may break down. -/
inductive Callback (α : Type)
  | returns (work : Procedure α)
  | panic
  | perform (operation : Operation) (next : Except ExecutionError Answer → Callback α)

/-- What comes of a transaction. -/
inductive Outcome (α : Type)
  | done (result : α)
  | failed (error : ExecutionError)
  | panicked
  deriving Repr

namespace Outcome

/-- What comes of work that cannot break down. -/
def ofExcept {α : Type} : Except ExecutionError α → Outcome α
  | .ok result => done result
  | .error error => failed error

end Outcome

namespace Procedure

/-- Performs operations up to the first one that fails and collects their answers. If `panics` is
set the work breaks down after all of them. -/
def ofOperations (panics : Bool) (answers : List Answer) : List Operation → Procedure (List Answer)
  | [] => if panics then panic else done answers
  | operation :: rest =>
    .perform operation fun
      | .ok answer => ofOperations panics (answers ++ [answer]) rest
      | .error error => fail error

/-- Runs a procedure in the open transaction. -/
def run {α : Type} (x : Executor) : Procedure α → StateM History (Outcome α)
  | done result => return .done result
  | fail error => return .failed error
  | panic => return .panicked
  | .perform operation next => do
    let answer ← (Execute.perform x .transaction operation).run
    run x (next answer)

end Procedure

namespace Callback

/-- The callback that performs nothing itself and returns the work on some operations. -/
def ofOperations (panics : Bool) (answers : List Answer) (operations : List Operation) :
    Callback (List Answer) := returns (.ofOperations panics answers operations)

/-- Calls a callback in the open transaction. There is no work if it breaks down. -/
def call {α : Type} (x : Executor) : Callback α → StateM History (Option (Procedure α))
  | returns work => return some work
  | panic => return none
  | .perform operation next => do
    let answer ← (Execute.perform x .transaction operation).run
    call x (next answer)

end Callback

/-- Calls a callback and does its work in a transaction of its own. The transaction is committed if
the work ends with a result, and rolled back if it fails or breaks down. -/
def runInTransaction {α : Type} (x : Executor) (level : Option IsolationLevel) (f : Callback α) :
    StateM History (Outcome α) := do
  match ← (begin x.adapter level).run with
  | .error error => return .failed error
  | .ok () =>
    -- only the work is guarded: a breakdown of the call itself goes through
    match ← f.call x with
    | none => return .panicked
    | some work =>
      match ← work.run x with
      | .done result => return .ofExcept (← (close x.adapter (.ok result)).run)
      | .failed error => return .ofExcept (← (close x.adapter (.error error)).run)
      | .panicked =>
        let _ ← (Execute.call .rollback x.adapter.rollback).run
        return .panicked

end RelationalQuery.Execute
