/-!
# Orderings

A list of rows is sorted by one field after the other, each up or down, with nulls first or last
where that is asked for.
-/

namespace RelationalQuery

/-- The direction of a sort. -/
inductive Direction
  | ascending
  | descending
  deriving DecidableEq, Repr

/-- Where nulls stand in a sort. -/
inductive NullsPlace
  | first
  | last
  deriving DecidableEq, Repr

/-- One field to sort by. -/
structure SortKey where
  field : String
  direction : Direction := .ascending
  nulls : Option NullsPlace := none
  deriving DecidableEq, Repr

namespace Direction

/-- The word for a direction. -/
def sql : Direction → String
  | ascending => "ASC"
  | descending => "DESC"

/-- The direction with this name, all in lower or all in upper case. -/
def ofName? (name : String) : Option Direction :=
  if name = "asc" ∨ name = "ASC" then some ascending
  else if name = "desc" ∨ name = "DESC" then some descending
  else none

end Direction

namespace NullsPlace

/-- The words for a place. -/
def sql : NullsPlace → String
  | first => "NULLS FIRST"
  | last => "NULLS LAST"

end NullsPlace

/-- The text of a sort key. -/
def SortKey.text (key : SortKey) : String :=
  key.field ++ " " ++ key.direction.sql ++
    (match key.nulls with
      | some place => " " ++ place.sql
      | none => "")

end RelationalQuery
