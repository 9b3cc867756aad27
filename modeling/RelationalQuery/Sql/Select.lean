import RelationalQuery.Query.Ordering
import RelationalQuery.Sql.Condition
import RelationalQuery.Sql.Statement

/-!
# Reads

The tree of a read: what is selected, from which tables, under which conditions, in which order and
how many rows.

A `Page` is the plain read of one table. It also stands inside other reads, where rows have to be
counted off before they are joined or aggregated.
-/

namespace RelationalQuery.Sql

open Fragment

/-- A column to sort by. -/
structure OrderKey where
  column : Column
  direction : Direction
  nulls : Option NullsPlace
  deriving DecidableEq, Repr

/-- What an aggregate function is applied to: a column, or whole rows. -/
inductive Projection
  | rows
  | column (column : Column)
  | apply (function : String) (column : Column)
  deriving DecidableEq, Repr

/-- A condition on the rows of a scalar subquery. -/
inductive Match
  /-- A column equals a column of the row outside. -/
  | outer (column other : Column)
  | value (column : Column) (value : Value)
  | null (column : Column)
  deriving Repr

/-- A single value from the rows of another table. -/
structure ScalarQuery where
  projection : Projection
  table : String
  conditions : List Match
  orderBy : List OrderKey
  firstOnly : Bool
  deriving Repr

/-- Something that is selected. -/
inductive Item
  /-- All columns. -/
  | everything
  /-- All columns of one table. -/
  | everythingOf (table : String)
  | column (column : Column)
  | aliased (column : Column) (aliasName : String)
  /-- The number of rows. -/
  | count
  | aggregate (projection : Projection) (aliasName : String)
  /-- The number of rows that pass a clause. -/
  | filteredCount (clause : Clause) (aliasName : String)
  | scalar (query : ScalarQuery) (aliasName : String)
  deriving Repr

/-- The rows of a table that are left after conditions, in order, from an offset up to a limit. -/
structure Page where
  table : Table
  clause : Clause := []
  orderBy : List OrderKey := []
  take : Option Int64 := none
  skip : Option Int64 := none
  deriving Repr

/-- Where a read takes its rows from. -/
inductive Base
  | table (table : Table)
  | page (page : Page) (aliasName : String)
  deriving Repr

/-- Tables that are joined from the left, each where two columns are equal, and further conditions
on the last one. -/
structure Join where
  steps : List (Table × Column × Column)
  conditions : List Condition
  deriving Repr

/-- A read. -/
structure Select where
  items : List Item
  base : Base
  joins : List Join := []
  clause : Clause := []
  groupBy : List Column := []
  orderBy : List OrderKey := []
  take : Option Int64 := none
  skip : Option Int64 := none
  deriving Repr

/-! ## Text -/

/-- The text of a number. -/
def integerText (n : Int64) : String := toString n.toInt

namespace OrderKey

/-- The text of a sort key. Dialects that cannot place nulls leave that out. -/
def fragment (d : Dialect) (key : OrderKey) : Fragment :=
  key.column.fragment ++ ofText s!" {key.direction.sql}" ++
    (match key.nulls with
      | some place => if d.has .nullsPlace then ofText s!" {place.sql}" else []
      | none => [])

end OrderKey

/-- The text of an ordering, if there is one. -/
def orderFragment (d : Dialect) (keys : List OrderKey) : Fragment :=
  if keys.isEmpty then [] else ofText " ORDER BY " ++ Fragment.join ", " (keys.map (·.fragment d))

/-- The text of a limit and an offset. -/
def limitFragment (d : Dialect) : Option Int64 → Option Int64 → Fragment
  | some take, some skip => ofText s!" LIMIT {integerText take} OFFSET {integerText skip}"
  | some take, none => ofText s!" LIMIT {integerText take}"
  | none, some skip =>
    ofText (match d.unlimited with
      | some limit => s!" LIMIT {limit} OFFSET {integerText skip}"
      | none => s!" OFFSET {integerText skip}")
  | none, none => []

namespace Projection

/-- The text of what is projected. -/
def fragment : Projection → Fragment
  | rows => ofText "COUNT(*)"
  | column c => c.fragment
  | apply function c => wrap (function ++ "(") c.fragment ")"

end Projection

namespace Match

/-- The text of a condition. -/
def fragment : Match → Fragment
  | outer c other => Column.equation c other
  | value c v => c.fragment ++ ofText " = " ++ ofParam .computed v
  | null c => c.fragment ++ ofText " IS NULL"

end Match

namespace ScalarQuery

/-- The text of a scalar subquery. -/
def fragment (d : Dialect) (q : ScalarQuery) : Fragment :=
  wrap "(SELECT "
    (q.projection.fragment ++ ofText " FROM " ++ ofName q.table ++
      (if q.conditions.isEmpty then [] else
        ofText " WHERE " ++ Fragment.join " AND " (q.conditions.map Match.fragment)) ++
      orderFragment d q.orderBy ++
      (if q.firstOnly then ofText " LIMIT 1" else [])) ")"

end ScalarQuery

namespace Item

/-- The text of what is selected. -/
def fragment (d : Dialect) : Item → Fragment
  | everything => ofText "*"
  | everythingOf table => ofName table ++ ofText ".*"
  | column c => c.fragment
  | aliased c aliasName => c.fragment ++ ofText " AS " ++ ofName aliasName
  | count => ofText "COUNT(*)"
  | aggregate projection aliasName => projection.fragment ++ ofText " AS " ++ ofName aliasName
  | filteredCount clause aliasName =>
    wrap "COUNT(*) FILTER (WHERE " (clause.fragment d .filter) ")" ++ ofText " AS " ++
      ofName aliasName
  | scalar query aliasName => query.fragment d ++ ofText " AS " ++ ofName aliasName

end Item

namespace Page

/-- The text of a page. -/
def fragment (d : Dialect) (p : Page) : Fragment :=
  ofText "SELECT * FROM " ++ p.table.fragment ++ p.clause.whereFragment d ++
    orderFragment d p.orderBy ++ limitFragment d p.take p.skip

end Page

namespace Base

/-- The text of where rows are taken from. -/
def fragment (d : Dialect) : Base → Fragment
  | table t => t.fragment
  | page p aliasName => wrap "(" (p.fragment d) ")" ++ ofText " AS " ++ ofName aliasName

end Base

namespace Join

/-- The text of one step of a join. -/
def stepFragment (step : Table × Column × Column) : Fragment :=
  ofText "LEFT JOIN " ++ step.1.fragment ++ ofText " ON " ++ Column.equation step.2.1 step.2.2

/-- The text of a join. -/
def fragment (d : Dialect) (j : Join) : Fragment :=
  Fragment.join " AND "
    (Fragment.join " " (j.steps.map stepFragment) :: Condition.fragments d .join j.conditions)

end Join

namespace Select

/-- The text of a read. -/
def fragment (d : Dialect) (s : Select) : Fragment :=
  ofText "SELECT " ++ Fragment.join ", " (s.items.map (·.fragment d)) ++ ofText " FROM " ++
    s.base.fragment d ++ s.joins.flatMap (fun join => ofText " " ++ join.fragment d) ++
    s.clause.whereFragment d ++
    (if s.groupBy.isEmpty then [] else
      ofText " GROUP BY " ++ Fragment.join ", " (s.groupBy.map Column.fragment)) ++
    orderFragment d s.orderBy ++ limitFragment d s.take s.skip

end Select

/-- The read of a page by itself. -/
def Page.select (p : Page) : Select :=
  { items := [.everything], base := .table p.table, clause := p.clause, orderBy := p.orderBy,
    take := p.take, skip := p.skip }

end RelationalQuery.Sql
