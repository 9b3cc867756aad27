import RelationalQuery.Query.Basic
import RelationalQuery.Query.Reader.Arguments

/-!
# Reading queries

A query is written as an object with the name of a model, the name of an action and, under `query`,
the arguments and the selection.

In a selection a flag stands for a field, and an object for related rows with arguments and a
selection of their own. Under `$scalars` and `$composites` stand the flags for all fields of these
kinds, which are off in a selection that is written out.
-/

namespace RelationalQuery

namespace Selection

mutual

/-- The selection at a path. Without one all fields are selected. -/
def read (path : String) : Json → Except QueryError Selection
  | .null => .ok {}
  | .object members => readEntries path explicit members
  | found => invalid path (.expected "an object" found.kind)

/-- Reads the entries of a selection into what was read before. -/
def readEntries (path : String) (sofar : Selection) :
    List (String × Json) → Except QueryError Selection
  | [] => .ok sofar
  | (key, json) :: rest =>
    if key = "$scalars" then
      match json with
      | .bool on => readEntries path { sofar with scalars := on } rest
      | _ => invalid (path ++ "." ++ key) .expectedBoolean
    else if key = "$composites" then
      match json with
      | .bool on => readEntries path { sofar with composites := on } rest
      | _ => invalid (path ++ "." ++ key) .expectedBoolean
    else do
      let field ← readField (path ++ "." ++ key) json
      readEntries path { sofar with fields := Dict.put sofar.fields key field } rest

/-- How a field is selected. -/
def readField (path : String) : Json → Except QueryError SelectedField
  | .bool on => .ok (.flag on)
  | .object members => do
    let arguments ← match Dict.get? members "arguments" with
      | some json => Arguments.ofJson json
      | none => .ok {}
    let selection ← readNested path members
    match ((Dict.takeOut members "arguments").takeOut "selection").keys.head? with
    | some unknown => invalid path (.unknownSelectionKey unknown)
    | none => return .nested arguments selection
  | found => invalid path (.expected "a boolean or an object" found.kind)

/-- The selection among the members of an object, or the selection of all fields. -/
def readNested (path : String) : List (String × Json) → Except QueryError Selection
  | [] => .ok {}
  | (key, json) :: rest =>
    if key = "selection" then read (path ++ ".selection") json else readNested path rest

end

/-- The selection that a document stands for. -/
def ofJson (json : Json) : Except QueryError Selection := read "selection" json

end Selection

namespace Query

/-- Reads the body of a query, its arguments before its selection. -/
def readBody (model : String) (action : Action) (body : Dict Json) : Except QueryError Query := do
  let arguments ← match body.get? "arguments" with
    | some json => Arguments.ofJson json
    | none => .ok {}
  let selection ← match body.get? "selection" with
    | some json => some <$> Selection.ofJson json
    | none => .ok none
  return ⟨model, action, arguments, selection⟩

/-- The query that a document stands for. -/
def ofJson : Json → Except QueryError Query
  | .object members => do
    let model ← match Dict.get? members "modelName" with
      | some (.string model) => .ok model
      | _ => .error (.missingField "modelName")
    let action ← match Dict.get? members "action" with
      | some (.string name) => Action.ofName name
      | _ => .error (.missingField "action")
    match Dict.get? members "query" with
    | some (.object body) => readBody model action body
    | none => return ⟨model, action, {}, none⟩
    | some .null => return ⟨model, action, {}, none⟩
    | some found => invalid "query" (.expected "an object" found.kind)
  | found => invalid "query" (.expected "an object" found.kind)

end Query

end RelationalQuery
