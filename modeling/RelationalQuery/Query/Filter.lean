import RelationalQuery.Query.Operator
import RelationalQuery.Value.Basic

/-!
# Filters

A filter is an ordered dictionary from the name of a field, or the key of a connective, to a
`Criterion`. A row passes if it meets every entry.

Filters are built freely. Whether an operator is known, or a field is a relation, is only checked
against a schema when the filter is compiled; the keys of a comparison are therefore kept as texts.
-/

namespace RelationalQuery

/-- What an entry of a filter asks for. -/
inductive Criterion
  /-- The field equals a value, or is null. -/
  | literal (value : Value)
  /-- The field meets every comparison, given by its key and operand. -/
  | comparison (operators : List (String × Value))
  /-- The filters hold together as the connective says. -/
  | logical (connective : Connective) (operands : List (List (String × Criterion)))
  /-- As many related rows as the quantifier says pass the filter. -/
  | related (quantifier : Quantifier) (nested : List (String × Criterion))
  deriving Inhabited, Repr

/-- A filter: its criteria, in order. -/
abbrev Filter := Dict Criterion

namespace Criterion

/-- Two comparisons of one field in one. Everything else gives way to the second criterion. -/
def and : Criterion → Criterion → Criterion
  | comparison a, comparison b => comparison (Dict.putAll a b)
  | _, other => other

/-- The comparisons of a criterion that is made of them. -/
def comparison? : Criterion → Option (Dict Value)
  | comparison operators => some operators
  | _ => none

/-- The quantifier and filter of a criterion over related rows. -/
def related? : Criterion → Option (Quantifier × Filter)
  | related quantifier nested => some (quantifier, nested)
  | _ => none

/-- Whether the criterion is one over related rows. -/
def isRelated : Criterion → Bool
  | related _ _ => true
  | _ => false

/-- Whether the criterion combines filters. -/
def isLogical : Criterion → Bool
  | logical _ _ => true
  | _ => false

/-- A single comparison. -/
def compare (op : Comparison) (operand : Value) : Criterion := comparison [(op.key, operand)]

/-- There are no related rows. -/
def isEmpty : Criterion := related .none []

/-- There are related rows. -/
def isNotEmpty : Criterion := related .some []

end Criterion

namespace Filter

/-- The filter that combines others, under the key of the connective. -/
def combine (connective : Connective) (operands : List Filter) : Filter :=
  [(connective.key, .logical connective operands)]

/-- The filter that holds where this one does not. -/
def negate (filter : Filter) : Filter := combine .not [filter]

end Filter

end RelationalQuery
