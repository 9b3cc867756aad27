import RelationalQuery.Sql.Fragment

/-!
# Conditions

Conditions on rows are kept as data until a statement is rendered: the names of tables and columns,
the nesting of subqueries and the values that are compared stay apart from the text.

A `Clause` is a list of conditions that hold together. An empty list of conditions, of alternatives
or of members has its usual meaning, and is written as a comparison of two constants.
-/

namespace RelationalQuery.Sql

/-- A table where it occurs in a statement, under its own name or an alias. -/
structure Table where
  name : String
  aliasName : Option String := none
  deriving DecidableEq, Repr

/-- A column, with or without the name of the table occurrence that it belongs to. -/
structure Column where
  table : Option String
  name : String
  deriving DecidableEq, Repr

/-- How a column is compared with a value. -/
inductive Comparator
  | eq
  | ne
  | lt
  | le
  | gt
  | ge
  /-- A match with a pattern, with or without regard to case. -/
  | like (insensitive : Bool)
  deriving DecidableEq, Repr

/-- The tables that a subquery reads. -/
inductive Source
  | single (table : Table)
  /-- A join table and its target, where the two columns are equal. -/
  | linked (junction target : Table) (left right : Column)
  deriving DecidableEq, Repr

/-- A condition on rows. -/
inductive Condition
  | isNull (column : Column) (negated : Bool)
  | compare (column : Column) (op : Comparator) (value : Value)
  | member (column : Column) (negated : Bool) (values : List Value)
  /-- All of the clauses hold, or any of them. -/
  | junction (all : Bool) (clauses : List (List Condition))
  /-- The clause does not hold. -/
  | negation (clause : List Condition)
  /-- There are rows, or there are none, for which the two columns are equal and the conditions
  hold. -/
  | subquery (negated : Bool) (source : Source) (left right : Column) (conditions : List Condition)
  deriving Inhabited, Repr

/-- Conditions that hold together. -/
abbrev Clause := List Condition

open Fragment

namespace Table

/-- The name by which the columns of the table are qualified. -/
def reference (t : Table) : String := t.aliasName.getD t.name

/-- The table as it is introduced. -/
def fragment (t : Table) : Fragment :=
  ofName t.name ++
    (match t.aliasName with
      | some aliasName => ofText " AS " ++ ofName aliasName
      | none => [])

end Table

namespace Column

/-- The column as it is written. -/
def fragment (c : Column) : Fragment :=
  (match c.table with
    | some table => ofName table ++ ofText "."
    | none => []) ++ ofName c.name

/-- Two columns that are equal. -/
def equation (left right : Column) : Fragment := left.fragment ++ ofText " = " ++ right.fragment

end Column

namespace Comparator

/-- The word for a comparison. Dialects that always search without regard to case have no word of
their own for it. -/
def sql (d : Dialect) : Comparator → String
  | eq => "="
  | ne => "<>"
  | lt => "<"
  | le => "<="
  | gt => ">"
  | ge => ">="
  | like insensitive => if insensitive && d.has .insensitiveSearch then "ILIKE" else "LIKE"

end Comparator

namespace Source

/-- The tables as they are introduced. -/
def fragment : Source → Fragment
  | single table => table.fragment
  | linked junction target left right =>
    junction.fragment ++ ofText " INNER JOIN " ++ target.fragment ++ ofText " ON " ++
      Column.equation left right

/-- The names that the tables are introduced under. -/
def names : Source → List String
  | single table => [table.reference]
  | linked junction target _ _ => [junction.reference, target.reference]

end Source

/-- What always holds, and what never does. -/
def constant (holds : Bool) : Fragment := ofText (if holds then "1=1" else "1=0")

/-- Conditions that hold together, from their fragments. -/
def conjunction (conditions : List Fragment) : Fragment :=
  match conditions with
  | [] => constant true
  | _ => Fragment.join " AND " conditions

namespace Condition

mutual

/-- The text of a condition, whose values belong to a group. -/
def fragment (d : Dialect) (group : ParamGroup) : Condition → Fragment
  | isNull column negated =>
    column.fragment ++ ofText (if negated then " IS NOT NULL" else " IS NULL")
  | compare column op value =>
    column.fragment ++ ofText s!" {op.sql d} " ++ ofParam group value
  | member column negated values =>
    match values with
    | [] => constant negated
    | _ =>
      column.fragment ++ ofText (if negated then " NOT IN (" else " IN (") ++
        Fragment.join "," (values.map (ofParam group)) ++ ofText ")"
  | junction all clauses =>
    match clauses with
    | [] => constant all
    | _ =>
      wrap "("
        (Fragment.join (if all then " AND " else " OR ") (clauseFragments d group clauses)) ")"
  | negation clause => wrap "NOT (" (conjunction (fragments d group clause)) ")"
  | subquery negated source left right conditions =>
    wrap (if negated then "NOT EXISTS (SELECT 1 FROM " else "EXISTS (SELECT 1 FROM ")
      (source.fragment ++ ofText " WHERE " ++
        Fragment.join " AND " (Column.equation left right :: fragments d group conditions)) ")"

/-- The texts of conditions. -/
def fragments (d : Dialect) (group : ParamGroup) : List Condition → List Fragment
  | [] => []
  | condition :: rest => fragment d group condition :: fragments d group rest

/-- The texts of clauses, each in parentheses. -/
def clauseFragments (d : Dialect) (group : ParamGroup) : List (List Condition) → List Fragment
  | [] => []
  | clause :: rest =>
    wrap "(" (conjunction (fragments d group clause)) ")" :: clauseFragments d group rest

end

end Condition

/-- The text of a clause. -/
def Clause.fragment (d : Dialect) (group : ParamGroup) (clause : Clause) : Fragment :=
  conjunction (Condition.fragments d group clause)

/-- The conditions on the rows of a statement, if there are any. -/
def Clause.whereFragment (d : Dialect) (clause : Clause) : Fragment :=
  if clause.isEmpty then [] else ofText " WHERE " ++ clause.fragment d .condition

end RelationalQuery.Sql
