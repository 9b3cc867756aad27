import RelationalQuery.Query.Error
import RelationalQuery.Query.Filter
import RelationalQuery.Value.Document

/-!
# Reading filters

A filter is written as an object. Under the key of a connective stands a filter or a list of
filters; an object with one key that is a quantifier is a criterion over related rows; any other
object holds comparisons, and everything else is a literal.

A fault is reported with the path that leads to it from `where`.
-/

namespace RelationalQuery.Filter

mutual

/-- The filter at a path. No filter at all is one without entries. -/
def read (path : String) : Json → Except QueryError Filter
  | .null => .ok []
  | .object members => readEntries path members
  | found => .error (.invalidFilter path (.expectedObject found.kind))

/-- The entries of a filter. -/
def readEntries (path : String) : List (String × Json) → Except QueryError Filter
  | [] => .ok []
  | (key, json) :: rest => do
    let criterion ← readCriterion (path ++ "." ++ key) key json
    return (key, criterion) :: (← readEntries path rest)

/-- The criterion under a key. -/
def readCriterion (path key : String) : Json → Except QueryError Criterion
  | .array items =>
    match Connective.ofKey? key with
    | some connective => return .logical connective (← readList path 0 items)
    | none => return .literal (.ofJson (.array items))
  | .object members =>
    match Connective.ofKey? key with
    | some connective => return .logical connective [← readEntries path members]
    | none => readMembers path members
  | json =>
    match Connective.ofKey? key with
    | some connective => .error (.invalidFilter path (.connectiveOperand connective json.kind))
    | none => return .literal (.ofJson json)

/-- The criterion that an object stands for where no connective is. -/
def readMembers (path : String) : List (String × Json) → Except QueryError Criterion
  | [(key, json)] =>
    match Quantifier.ofKey? key with
    | some quantifier => return .related quantifier (← read (path ++ "." ++ key) json)
    | none => return .comparison [(key, .ofJson json)]
  | members =>
    if members.any fun m => (Quantifier.ofKey? m.1).isSome then
      .error (.invalidFilter path .mixedQuantifier)
    else return .comparison (Value.ofJsonMembers members)

/-- The filters of a list, from the given position on. -/
def readList (path : String) (position : Nat) : List Json → Except QueryError (List Filter)
  | [] => .ok []
  | item :: rest => do
    let filter ← read s!"{path}[{position}]" item
    return filter :: (← readList path (position + 1) rest)

end

/-- The filter that a document stands for. -/
def ofJson (json : Json) : Except QueryError Filter := read "where" json

end RelationalQuery.Filter
