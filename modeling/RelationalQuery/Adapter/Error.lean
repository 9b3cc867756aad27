import RelationalQuery.Json.Basic
import RelationalQuery.Value.Conversion

/-!
# Errors of adapters

What an adapter reports when a database refuses a statement, a connection breaks, or a value cannot
be converted. Adapters may report errors as documents, which `AdapterError.ofJson?` reads.
-/

namespace RelationalQuery

/-- The ways in which an adapter fails. -/
inductive AdapterFailure
  /-- The database refused a statement, and may have said why with a code. -/
  | query (code : Option String)
  | connection
  | transactionClosed
  | conversion
  | generic
  deriving DecidableEq, Repr

/-- An error that an adapter reports. -/
structure AdapterError where
  failure : AdapterFailure
  text : String
  deriving DecidableEq, Repr

namespace AdapterError

/-- The error of a refused statement, without a code. -/
def query (text : String) : AdapterError := ⟨.query none, text⟩

/-- An error of no special kind. -/
def generic (text : String) : AdapterError := ⟨.generic, text⟩

/-- The error of an action on a transaction that is closed. -/
def transactionClosed (action : String) : AdapterError :=
  ⟨.transactionClosed, s!"A {action} cannot be executed on a closed transaction."⟩

/-- The error of a failed conversion. -/
def ofConversion (failure : ConversionFailure) : AdapterError := ⟨.conversion, failure.message⟩

/-- The message of an error. -/
def message (e : AdapterError) : String :=
  match e.failure with
  | .query (some code) => s!"Error in query: {e.text} (code {code})"
  | .query none => s!"Error in query: {e.text}"
  | .connection => s!"Error in connector: {e.text}"
  | .transactionClosed => s!"Transaction already closed: {e.text}"
  | .conversion => s!"Conversion failed: {e.text}"
  | .generic => e.text

/-! ## Errors as documents -/

/-- The failures that have no further content, under their names. -/
def plainFailures : List (String × AdapterFailure) :=
  [("Connection", .connection), ("TransactionClosed", .transactionClosed),
    ("Conversion", .conversion), ("Generic", .generic)]

/-- A code: a text, or `null` for none. -/
def code? : Json → Option (Option String)
  | .null => some none
  | .string code => some (some code)
  | _ => none

/-- The error that the members of an object describe. -/
def ofMembers? (members : Dict Json) : Option AdapterError := do
  let kind ← members.get? "kind" >>= Json.string?
  if kind = "Query" then
    let code ← code? ((members.get? "code").getD .null)
    let text ← members.get? "message" >>= Json.string?
    return ⟨.query code, text⟩
  else
    let failure ← Dict.get? plainFailures kind
    let text ← members.get? "message" >>= Json.string?
    return ⟨failure, text⟩

/-- The error of a document: an object, or the list of its kind and contents in order. -/
def ofJson? : Json → Option AdapterError
  | .object members => ofMembers? members
  | .array [.string "Query", code, .string text] => do return ⟨.query (← code? code), text⟩
  | .array [.string kind, .string text] => do return ⟨← Dict.get? plainFailures kind, text⟩
  | _ => none

end AdapterError

end RelationalQuery
