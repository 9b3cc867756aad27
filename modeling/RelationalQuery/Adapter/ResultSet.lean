import RelationalQuery.Json.Shape
import RelationalQuery.Value.Document

/-!
# Result sets

The answer of a database to a query: columns with their names and types, rows, and the id of the
last row that was inserted. An adapter may report fewer types than columns, and rows of any length.
-/

namespace RelationalQuery

open Json (Shape)

/-- The type that a database declares for a column. -/
inductive ColumnType
  | int32
  | int64
  | float
  | double
  /-- Decimal numbers, which arrive as text. -/
  | numeric
  /-- Truth values, which may arrive as `0` and `1`. -/
  | boolean
  | character
  | text
  | date
  | time
  | dateTime
  | json
  | enumeration
  | bytes
  | set
  | uuid
  /-- A number of unknown precision. -/
  | unknownNumber
  deriving DecidableEq, Repr

namespace ColumnType

/-- The types and their names. -/
def named : List (String × ColumnType) :=
  [("int32", int32), ("int64", int64), ("float", float), ("double", double), ("numeric", numeric),
    ("boolean", boolean), ("character", character), ("text", text), ("date", date), ("time", time),
    ("dateTime", dateTime), ("json", json), ("enum", enumeration), ("bytes", bytes), ("set", set),
    ("uuid", uuid), ("unknownNumber", unknownNumber)]

/-- The name of a type. -/
def name : ColumnType → String
  | int32 => "int32"
  | int64 => "int64"
  | float => "float"
  | double => "double"
  | numeric => "numeric"
  | boolean => "boolean"
  | character => "character"
  | text => "text"
  | date => "date"
  | time => "time"
  | dateTime => "dateTime"
  | json => "json"
  | enumeration => "enum"
  | bytes => "bytes"
  | set => "set"
  | uuid => "uuid"
  | unknownNumber => "unknownNumber"

/-- A type, by its name. -/
def shape : Shape ColumnType := Shape.oneOf named

end ColumnType

/-- The cells of a row, in the order of the columns. -/
abbrev Row := List Value

/-- The answer to a query. -/
structure ResultSet where
  names : List String := []
  types : List ColumnType := []
  rows : List Row := []
  lastInsertId : Option String := none
  deriving Inhabited, Repr

namespace ResultSet

/-- The position of the first column with a name. -/
def columnIndex (r : ResultSet) (name : String) : Option Nat := r.names.findIdx? (· == name)

/-- The declared type of a column, if there is one. -/
def columnType (r : ResultSet) (index : Nat) : Option ColumnType := r.types[index]?

/-- The number of rows. -/
def length (r : ResultSet) : Nat := r.rows.length

/-- Whether there are no rows. -/
def isEmpty (r : ResultSet) : Bool := r.rows.isEmpty

/-- The document of a result set. -/
def toJson (r : ResultSet) : Json :=
  .object [("columnNames", Json.strings r.names),
    ("columnTypes", Json.strings (r.types.map ColumnType.name)),
    ("rows", .array (r.rows.map Value.documents)),
    ("lastInsertId", Json.ofOption .string r.lastInsertId)]

end ResultSet

end RelationalQuery
