import RelationalQuery.Calendar.Moment
import RelationalQuery.Json.Basic

/-!
# Values

A `Value` is what filters compare with, what records hold, what statements bind and what the cells
of a result set contain. `Value.same` is their equality and `BindType.of` the tag under which a
driver binds a value.
-/

namespace RelationalQuery

open Calendar (Moment)

/-- A scalar or structured value. -/
inductive Value
  | null
  | bool (value : Bool)
  | int (value : Int64)
  | float (value : Float)
  | text (value : String)
  | moment (value : Moment)
  /-- A JSON document that is bound as one argument. -/
  | json (document : Json)
  | bytes (value : List UInt8)
  | list (items : List Value)
  /-- Values under keys, in the order in which they were set. -/
  | object (members : List (String × Value))
  deriving Inhabited, Repr

/-- How a driver binds an argument. -/
inductive BindType
  | int32
  | int64
  | double
  | text
  | boolean
  | dateTime
  | json
  | bytes
  | array
  | object
  /-- A null argument, whose type the statement decides. -/
  | unknown
  deriving DecidableEq, Repr

namespace Value

/-- The short name of the kind of a value. -/
def kind : Value → String
  | null => "null"
  | bool _ => "boolean"
  | int _ => "int"
  | float _ => "float"
  | text _ => "string"
  | moment _ => "datetime"
  | json _ => "json"
  | bytes _ => "bytes"
  | list _ => "list"
  | object _ => "object"

/-- Whether the value is null. -/
def isNull : Value → Bool
  | null => true
  | _ => false

/-- The text of a text value. -/
def text? : Value → Option String
  | text s => some s
  | _ => none

/-- The number of an integer value. -/
def int? : Value → Option Int64
  | int n => some n
  | _ => none

/-- The truth value of a Boolean value. -/
def bool? : Value → Option Bool
  | bool b => some b
  | _ => none

/-- The items of a list value. -/
def list? : Value → Option (List Value)
  | list items => some items
  | _ => none

/-- The members of an object value. -/
def object? : Value → Option (Dict Value)
  | object members => some members
  | _ => none

mutual

/-- Whether two values are equal. Values of different kinds never are; floating-point numbers
compare as such, so what is no number differs from itself; moments compare as instants; the order of
keys does not count. -/
def same : Value → Value → Bool
  | null, null => true
  | bool a, bool b => a == b
  | int a, int b => a == b
  | float a, float b => a == b
  | text a, text b => a == b
  | moment a, moment b => a.same b
  | json a, json b => a.same b
  | bytes a, bytes b => a == b
  | list a, list b => sameItems a b
  | object a, object b => a.length == b.length && sameMembers a b
  | _, _ => false

/-- Whether two lists have equal items, one by one. -/
def sameItems : List Value → List Value → Bool
  | [], [] => true
  | a :: as, b :: bs => same a b && sameItems as bs
  | _, _ => false

/-- Whether every member of the first object has an equal one in the second. -/
def sameMembers : List (String × Value) → List (String × Value) → Bool
  | [], _ => true
  | (key, a) :: rest, others =>
    (match Dict.get? others key with
      | some b => same a b
      | none => false) && sameMembers rest others

end

end Value

namespace BindType

/-- The tag of a value. Integers are tagged by the width that they need. -/
def of : Value → BindType
  | .null => unknown
  | .bool _ => boolean
  | .int n =>
    if Int32.minValue.toInt ≤ n.toInt ∧ n.toInt ≤ Int32.maxValue.toInt then int32 else int64
  | .float _ => double
  | .text _ => text
  | .moment _ => dateTime
  | .json _ => json
  | .bytes _ => bytes
  | .list _ => array
  | .object _ => object

/-- The name that is shown for a tag. -/
def name : BindType → String
  | int32 => "Int32"
  | int64 => "Int64"
  | double => "Double"
  | text => "Text"
  | boolean => "Boolean"
  | dateTime => "DateTime"
  | json => "Json"
  | bytes => "Bytes"
  | array => "Array"
  | object => "Object"
  | unknown => "Unknown"

/-- The name of a tag in documents. -/
def key : BindType → String
  | int32 => "int32"
  | int64 => "int64"
  | double => "double"
  | text => "text"
  | boolean => "boolean"
  | dateTime => "dateTime"
  | json => "json"
  | bytes => "bytes"
  | array => "array"
  | object => "object"
  | unknown => "unknown"

end BindType

end RelationalQuery
