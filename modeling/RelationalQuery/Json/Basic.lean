import RelationalQuery.Dict

/-!
# JSON documents

Documents keep the order of the keys of their objects, and tell integers from other numbers: `1` and
`1.0` are different documents.

`Json.same` is the equality of documents. It does not look at the order of keys, and compares
numbers that are no integers as floating-point numbers.
-/

namespace RelationalQuery

/-- A JSON document. -/
inductive Json
  | null
  | bool (value : Bool)
  | int (value : Int)
  | float (value : Float)
  | string (value : String)
  | array (items : List Json)
  | object (members : List (String × Json))
  deriving Inhabited, Repr

namespace Json

/-- What a document is, in words. -/
def kind : Json → String
  | null => "null"
  | bool _ => "a boolean"
  | int _ => "a number"
  | float _ => "a number"
  | string _ => "a string"
  | array _ => "a list"
  | object _ => "an object"

/-- The text of a string document. -/
def string? : Json → Option String
  | string s => some s
  | _ => none

/-- The truth value of a Boolean document. -/
def bool? : Json → Option Bool
  | bool b => some b
  | _ => none

/-- The items of a list document. -/
def array? : Json → Option (List Json)
  | array items => some items
  | _ => none

/-- The members of an object document. -/
def object? : Json → Option (Dict Json)
  | object members => some members
  | _ => none

mutual

/-- Whether two documents are equal. -/
def same : Json → Json → Bool
  | null, null => true
  | bool a, bool b => a == b
  | int a, int b => a == b
  | float a, float b => a == b
  | string a, string b => a == b
  | array a, array b => sameItems a b
  | object a, object b => a.length == b.length && sameMembers a b
  | _, _ => false

/-- Whether two lists have equal items, one by one. -/
def sameItems : List Json → List Json → Bool
  | [], [] => true
  | a :: as, b :: bs => same a b && sameItems as bs
  | _, _ => false

/-- Whether every member of the first object has an equal one in the second. -/
def sameMembers : List (String × Json) → List (String × Json) → Bool
  | [], _ => true
  | (key, a) :: rest, others =>
    (match Dict.get? others key with
      | some b => same a b
      | none => false) && sameMembers rest others

end

/-- A list of texts. -/
def strings (texts : List String) : Json := array (texts.map string)

/-- A document, or `null` for none. -/
def ofOption {α : Type} (toJson : α → Json) : Option α → Json
  | some a => toJson a
  | none => null

end Json

end RelationalQuery
