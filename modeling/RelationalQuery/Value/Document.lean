import RelationalQuery.Base64
import RelationalQuery.Json.Text
import RelationalQuery.Value.Basic

/-!
# Values as documents and as text

`Value.ofJson` reads a document as a value, and `Value.toJson` writes a value as a document.
Integers stay integers, and what a document cannot say is written as text: moments and bytes as
strings, and what is no number as `null`.

`Value.display` is the text that is shown to a reader.
-/

namespace RelationalQuery.Value

mutual

/-- The value of a document. An integer that 64 bits do not hold is read as the nearest
floating-point number. -/
def ofJson : Json → Value
  | .null => null
  | .bool b => bool b
  | .int n =>
    if Int64.minValue.toInt ≤ n ∧ n ≤ Int64.maxValue.toInt then int (Int64.ofInt n)
    else float (Float.ofInt n)
  | .float x => float x
  | .string s => text s
  | .array items => list (ofJsonItems items)
  | .object members => object (ofJsonMembers members)

/-- The values of a list of documents. -/
def ofJsonItems : List Json → List Value
  | [] => []
  | item :: rest => ofJson item :: ofJsonItems rest

/-- The values of the members of an object. -/
def ofJsonMembers : List (String × Json) → List (String × Value)
  | [] => []
  | (key, value) :: rest => (key, ofJson value) :: ofJsonMembers rest

end

mutual

/-- The document of a value. -/
def toJson : Value → Json
  | null => .null
  | bool b => .bool b
  | int n => .int n.toInt
  | float x => if x.isFinite then .float x else .null
  | text s => .string s
  | moment m => .string m.text
  | json document => document
  | bytes bs => .string (Base64.encode bs)
  | list items => .array (toJsonItems items)
  | object members => .object (toJsonMembers members)

/-- The documents of a list of values. -/
def toJsonItems : List Value → List Json
  | [] => []
  | item :: rest => toJson item :: toJsonItems rest

/-- The members of the document of an object. -/
def toJsonMembers : List (String × Value) → List (String × Json)
  | [] => []
  | (key, value) :: rest => (key, toJson value) :: toJsonMembers rest

end

mutual

/-- The text that is shown for a value. Texts stand for themselves, without quotes. -/
def display : Value → String
  | null => "null"
  | bool true => "true"
  | bool false => "false"
  | int n => toString n.toInt
  | float x => Decimal.plain.text x
  | text s => s
  | moment m => m.text
  | json document => document.text
  | bytes bs => Base64.encode bs
  | list items => "[" ++ ", ".intercalate (displayItems items) ++ "]"
  | object members => "\x7b " ++ ", ".intercalate (displayMembers members) ++ " \x7d"

/-- The texts of the items of a list. -/
def displayItems : List Value → List String
  | [] => []
  | item :: rest => display item :: displayItems rest

/-- The texts of the members of an object. -/
def displayMembers : List (String × Value) → List String
  | [] => []
  | (key, value) :: rest => ("\"" ++ key ++ "\": " ++ display value) :: displayMembers rest

end

/-- The document of a list of values. -/
def documents (values : List Value) : Json := .array (values.map toJson)

end RelationalQuery.Value
