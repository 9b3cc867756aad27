import RelationalQuery.Dict

/-!
# Operators of filters

Three kinds of operators: comparisons of a field with an operand, connectives between filters, and
quantifiers over related rows. Each goes by a key.
-/

namespace RelationalQuery

/-- Where a text search looks for its operand. -/
inductive TextMatch
  | contains
  | startsWith
  | endsWith
  deriving DecidableEq, Repr

/-- How a field is compared with an operand. -/
inductive Comparison
  | equals
  | not
  | isIn
  | notIn
  | lt
  | lte
  | gt
  | gte
  /-- A text search, with or without regard to case. -/
  | search (place : TextMatch) (insensitive : Bool)
  deriving DecidableEq, Repr

/-- How the filters of a list are combined. -/
inductive Connective
  | all
  | any
  /-- None of the filters holds. -/
  | not
  deriving DecidableEq, Repr

/-- Which related rows have to match. -/
inductive Quantifier
  | some
  | every
  | none
  deriving DecidableEq, Repr

namespace TextMatch

/-- The pattern that finds the operand, with `%` for any text. -/
def pattern : TextMatch → String → String
  | contains, operand => "%" ++ operand ++ "%"
  | startsWith, operand => operand ++ "%"
  | endsWith, operand => "%" ++ operand

end TextMatch

namespace Comparison

/-- The comparisons and their keys, in the order in which they are listed to a reader. -/
def keyed : List (String × Comparison) :=
  [("equals", equals), ("not", not), ("in", isIn), ("notIn", notIn), ("lt", lt), ("lte", lte),
    ("gt", gt), ("gte", gte), ("contains", search .contains false),
    ("startsWith", search .startsWith false), ("endsWith", search .endsWith false),
    ("containsInsensitive", search .contains true),
    ("startsWithInsensitive", search .startsWith true),
    ("endsWithInsensitive", search .endsWith true)]

/-- The key of a comparison. -/
def key : Comparison → String
  | equals => "equals"
  | not => "not"
  | isIn => "in"
  | notIn => "notIn"
  | lt => "lt"
  | lte => "lte"
  | gt => "gt"
  | gte => "gte"
  | search .contains false => "contains"
  | search .startsWith false => "startsWith"
  | search .endsWith false => "endsWith"
  | search .contains true => "containsInsensitive"
  | search .startsWith true => "startsWithInsensitive"
  | search .endsWith true => "endsWithInsensitive"

/-- The comparison with this key. -/
def ofKey? (key : String) : Option Comparison := Dict.get? keyed key

/-- Every comparison is found under its key. -/
theorem ofKey?_key (op : Comparison) : ofKey? op.key = some op := by
  rcases op with _ | _ | _ | _ | _ | _ | _ | _ | ⟨_ | _ | _, _ | _⟩ <;> rfl

/-- Whether the comparison is a search without regard to case. -/
def isInsensitive : Comparison → Bool
  | search _ insensitive => insensitive
  | _ => false

/-- The operand as it is bound: as a pattern in a search, else unchanged. -/
def pattern : Comparison → String → String
  | search place _, operand => place.pattern operand
  | _, operand => operand

end Comparison

namespace Connective

/-- The key of a connective. -/
def key : Connective → String
  | all => "AND"
  | any => "OR"
  | not => "NOT"

/-- The connective with this key. -/
def ofKey? (key : String) : Option Connective :=
  if key = "AND" then some all
  else if key = "OR" then some any
  else if key = "NOT" then some not
  else none

/-- Every connective is found under its key. -/
theorem ofKey?_key (op : Connective) : ofKey? op.key = some op := by cases op <;> rfl

end Connective

namespace Quantifier

/-- The key of a quantifier. -/
def key : Quantifier → String
  | some => "some"
  | every => "every"
  | none => "none"

/-- The quantifier with this key. -/
def ofKey? (key : String) : Option Quantifier :=
  if key = "some" then Option.some .some
  else if key = "every" then Option.some every
  else if key = "none" then Option.some .none
  else Option.none

/-- Every quantifier is found under its key. -/
theorem ofKey?_key (q : Quantifier) : ofKey? q.key = Option.some q := by cases q <;> rfl

end Quantifier

end RelationalQuery
