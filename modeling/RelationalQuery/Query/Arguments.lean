import RelationalQuery.Query.Filter
import RelationalQuery.Query.Ordering

/-!
# Arguments of queries

What a query may ask for beyond its model and action: rows to match, data to write, aggregates,
fields computed from other tables. All of it is optional. Which arguments an action needs is checked
when the query is compiled.
-/

namespace RelationalQuery

/-! ## Data -/

/-- A related row, named by one of its unique fields. -/
structure Target where
  field : String
  value : Value
  deriving Inhabited, Repr

/-- Related rows to connect with a written row, and to disconnect from it. -/
structure RelationWrite where
  connect : List Target := []
  disconnect : List Target := []
  deriving Inhabited, Repr

/-- What a record holds under a field. -/
inductive Datum
  | value (value : Value)
  | relation (write : RelationWrite)
  deriving Inhabited, Repr

/-- A row to write. -/
abbrev DataRecord := Dict Datum

/-- One row to write, or several. -/
inductive WriteData
  | one (record : DataRecord)
  | many (records : List DataRecord)
  deriving Repr

/-- The value of a datum that is one. -/
def Datum.value? : Datum → Option Value
  | value v => some v
  | relation _ => none

/-! ## Aggregates -/

/-- What is counted: rows, and the values of fields that are not null. -/
structure CountSelection where
  all : Bool := false
  fields : List String := []
  deriving DecidableEq, Repr

/-- The aggregates that are asked for. A filtered count is the number of rows that pass a filter,
under an alias. -/
structure Aggregates where
  count : Option CountSelection := none
  avg : List String := []
  sum : List String := []
  min : List String := []
  max : List String := []
  filtered : List (String × Filter) := []
  deriving Inhabited, Repr

/-- Whether nothing is asked for. -/
def Aggregates.isEmpty (a : Aggregates) : Bool :=
  a.count.isNone && a.avg.isEmpty && a.sum.isEmpty && a.min.isEmpty && a.max.isEmpty &&
    a.filtered.isEmpty

/-! ## Computed fields -/

/-- What a computed field takes from the rows that belong to a row. -/
inductive ComputedOp
  | min
  | max
  | avg
  | sum
  | count
  /-- The column of the first row. -/
  | first
  deriving DecidableEq, Repr

namespace ComputedOp

/-- The operations and their names. -/
def named : List (String × ComputedOp) :=
  [("min", min), ("max", max), ("avg", avg), ("sum", sum), ("count", count), ("first", first)]

/-- The name of an operation. -/
def name : ComputedOp → String
  | min => "min"
  | max => "max"
  | avg => "avg"
  | sum => "sum"
  | count => "count"
  | first => "first"

/-- The operation with this name. -/
def ofName? (name : String) : Option ComputedOp := Dict.get? named name

/-- The aggregate function of an operation that is one. -/
def function? : ComputedOp → Option String
  | min => some "MIN"
  | max => some "MAX"
  | avg => some "AVG"
  | sum => some "SUM"
  | count => some "COUNT"
  | first => none

end ComputedOp

/-- What a column of a computed field's table must equal. -/
inductive Correlation
  /-- A field of the row that the computed field belongs to. -/
  | field (name : String)
  /-- A value. -/
  | value (value : Value)
  deriving Inhabited, Repr

/-- A field that is computed from another table for every row. -/
structure ComputedField where
  op : ComputedOp
  column : Option String := none
  table : String
  correlations : Dict Correlation := []
  orderBy : List SortKey := []
  deriving Repr

/-! ## All arguments -/

/-- The arguments of a query. -/
structure Arguments where
  filter : Option Filter := none
  data : Option WriteData := none
  orderBy : List SortKey := []
  take : Option Int64 := none
  skip : Option Int64 := none
  selectFields : List String := []
  aggregates : Option Aggregates := none
  computed : Dict ComputedField := []
  groupBy : List String := []
  /-- The row that an upsert inserts. -/
  create : Option DataRecord := none
  /-- What an upsert sets where the row is already there. -/
  update : Option DataRecord := none
  deriving Inhabited, Repr

end RelationalQuery
