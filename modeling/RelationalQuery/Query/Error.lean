import RelationalQuery.Query.Operator

/-!
# Errors in queries

A query that is put together from parts, or read from a document, may lack a part or hold one of the
wrong kind. `ArgumentFault` and `FilterFault` say what is wrong, `QueryError` says where.
-/

namespace RelationalQuery

/-- What is wrong with an argument. -/
inductive ArgumentFault
  | unknownArgument
  | expectedObject
  | expectedBoolean
  /-- Something else was found than what was expected. -/
  | expected (wanted found : String)
  | notACount (found : String)
  | unknownAggregate (name : String)
  | expectedAliasAndFilter
  | missing (key : String)
  | unknownOperation (name : String)
  | columnNotText (found : String)
  | correlationNotObject
  | referenceNotText
  | firstNeedsColumn
  | badDirection (found field : String)
  | badNulls (found field : String)
  | unknownSelectionKey (key : String)
  | badTarget
  | badSchema (mismatch : String)
  deriving DecidableEq, Repr

/-- What is wrong with a filter. -/
inductive FilterFault
  | expectedObject (found : String)
  | connectiveOperand (connective : Connective) (found : String)
  | mixedQuantifier
  deriving DecidableEq, Repr

/-- Why a query, or something that goes with it, cannot be made. -/
inductive QueryError
  | missingField (field : String)
  | unknownAction (action : String)
  | invalidArgument (argument : String) (fault : ArgumentFault)
  | invalidFilter (path : String) (fault : FilterFault)
  | defaultInstalled
  deriving DecidableEq, Repr

/-- The text of a fault in an argument. -/
def ArgumentFault.message : ArgumentFault → String
  | unknownArgument => "unknown argument"
  | expectedObject => "expected an object"
  | expectedBoolean => "expected a boolean"
  | expected wanted found => s!"expected {wanted}, found {found}"
  | notACount found => s!"expected a non-negative integer, found {found}"
  | unknownAggregate name => s!"unknown aggregate `{name}`"
  | expectedAliasAndFilter => "expected `\x7b alias, where \x7d`"
  | missing key => s!"`{key}` is required"
  | unknownOperation name =>
    s!"unknown operation `{name}`, expected one of min, max, avg, sum, count, first"
  | columnNotText found => s!"`column` must be a string, found {found}"
  | correlationNotObject => "`correlatingWhere` must be an object"
  | referenceNotText => "`fieldRef` must name a column"
  | firstNeedsColumn => "`first` needs a `column` to project"
  | badDirection found field =>
    s!"invalid sort direction `{found}` for `{field}`, expected `asc` or `desc`"
  | badNulls found field =>
    s!"invalid nulls order {found} for `{field}`, expected `first` or `last`"
  | unknownSelectionKey key => s!"unknown key `{key}`, expected `arguments` or `selection`"
  | badTarget =>
    "each target must be an object with exactly one unique field, e.g. `\x7b \"id\": 1 \x7d`"
  | badSchema mismatch => mismatch

/-- The text of a fault in a filter. -/
def FilterFault.message : FilterFault → String
  | expectedObject found => s!"expected an object, found {found}"
  | connectiveOperand connective found =>
    s!"`{connective.key}` expects a filter or a list of filters, found {found}"
  | mixedQuantifier => "a relation filter takes exactly one of `some`, `every` or `none`"

/-- The text of an error. -/
def QueryError.message : QueryError → String
  | missingField field => s!"Cannot build a query without `{field}`."
  | unknownAction action => s!"Unknown query action `{action}`."
  | invalidArgument argument fault => s!"Invalid `{argument}` argument: {fault.message}"
  | invalidFilter path fault => s!"Invalid filter at `{path}`: {fault.message}"
  | defaultInstalled => "A schema registry has already been installed as the process default."

end RelationalQuery
