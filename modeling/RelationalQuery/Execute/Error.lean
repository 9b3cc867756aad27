import RelationalQuery.Adapter.Error
import RelationalQuery.Compile.Error

/-!
# Errors of execution

Why a query cannot be executed: it cannot be compiled, the adapter fails, or the answer of the
database is not what was asked for.
-/

namespace RelationalQuery

/-- Why a query cannot be executed. -/
inductive ExecutionError
  | compile (error : CompileError)
  /-- What the adapter reported, unchanged. -/
  | adapter (error : AdapterError)
  | conversion (column problem : String)
  | recordNotFound (model : String) (action : Action)
  | missingGeneratedId (column : String)
  deriving DecidableEq, Repr

namespace ExecutionError

/-- The text of an error. -/
def message : ExecutionError → String
  | compile error => error.message
  | adapter error => error.message
  | conversion column problem =>
    s!"Failed to convert the value of column `{column}`: {problem}"
  | recordNotFound model action => s!"No `{model}` record was found for a {action.name} query."
  | missingGeneratedId column =>
    s!"The database returned no generated `{column}` for the created row, its relations cannot " ++
      "be connected."

/-- Whether the error says that a record is missing. -/
def isRecordNotFound : ExecutionError → Bool
  | recordNotFound _ _ => true
  | _ => false

end ExecutionError

end RelationalQuery
