import RelationalQuery.Json.Text
import RelationalQuery.Text.Quoted

/-!
# Shapes of documents

A document that stands for a value of a type has a shape: a text, a flag, a record with known
fields, a choice among named variants. The readers here take a document of their shape apart or say
in a `Mismatch` what was found and what was expected.

## Shape of a record

A record is an object, in which unknown keys are ignored, or the list of its fields in their
declared order. The entries of an object are read in their own order and the first bad one is
reported; a field that is missing is reported only after all of them have been read, in declared
order. Fields that may be left out stand at the end of a list.
-/

namespace RelationalQuery.Json

/-- Why a document does not have a shape. -/
inductive Mismatch
  | missingField (name : String)
  | wrongType (found : Json) (expected : String)
  /-- A bare variant name where the variant needs content. -/
  | bareVariant
  | severalVariants
  | unknownVariant (found : String) (expected : List String)
  | wrongLength (found : Nat) (expected : String)
  deriving Repr

/-- A document, as it is named in a mismatch. -/
def describe : Json → String
  | null => "null"
  | bool b => "boolean `" ++ (if b then "true" else "false") ++ "`"
  | int n => s!"integer `{n}`"
  | float x => "floating point `" ++ Decimal.document.text x ++ "`"
  | string s => "string " ++ Text.quoted s
  | array _ => "sequence"
  | object _ => "map"

namespace Mismatch

/-- The names of variants, as they are listed in a mismatch. -/
def choices (names : List String) : String :=
  let ticked := names.map fun name => s!"`{name}`"
  match ticked with
  | [] => "there are no variants"
  | [one] => "expected " ++ one
  | [one, two] => "expected " ++ one ++ " or " ++ two
  | many => "expected one of " ++ ", ".intercalate many

/-- The text of a mismatch. -/
def message : Mismatch → String
  | missingField name => s!"missing field `{name}`"
  | wrongType found expected => s!"invalid type: {found.describe}, expected {expected}"
  | bareVariant => "invalid type: unit variant, expected newtype variant"
  | severalVariants => "invalid value: map, expected map with a single key"
  | unknownVariant found expected => s!"unknown variant `{found}`, {choices expected}"
  | wrongLength found expected => s!"invalid length {found}, expected {expected}"

end Mismatch

/-- A reader of documents of one shape. -/
abbrev Shape (α : Type) := Json → Except Mismatch α

namespace Shape

/-- A text. -/
def text : Shape String
  | .string s => .ok s
  | found => .error (.wrongType found "a string")

/-- A flag. -/
def flag : Shape Bool
  | .bool b => .ok b
  | found => .error (.wrongType found "a boolean")

/-- Either `null` or a document of another shape. -/
def optional {α : Type} (shape : Shape α) : Shape (Option α)
  | .null => .ok none
  | found => some <$> shape found

/-- A list of documents of one shape. -/
def list {α : Type} (shape : Shape α) : Shape (List α)
  | .array items => items.mapM shape
  | found => .error (.wrongType found "a sequence")

/-- An object whose members all have one shape. -/
def dictionary {α : Type} (shape : Shape α) : Shape (Dict α)
  | .object members => members.mapM fun m => do return (m.1, ← shape m.2)
  | found => .error (.wrongType found "a map")

/-- One of several names, each standing for a value. The name may also be the only key of an object
with the content `null`. -/
def oneOf {α : Type} (names : List (String × α)) : Shape α
  | .string name => pick name
  | .object [(name, content)] => do
    let value ← pick name
    match content with
    | .null => return value
    | found => throw (.wrongType found "unit")
  | .object _ => .error .severalVariants
  | found => .error (.wrongType found "string or map")
where
  pick (name : String) : Except Mismatch α :=
    match Dict.get? names name with
    | some value => .ok value
    | none => .error (.unknownVariant name (names.map Prod.fst))

/-- A field of a record: its name, whether it must be there, and whether its content is good. -/
structure FieldShape where
  name : String
  required : Bool
  check : Json → Except Mismatch Unit

/-- A field that must be there. -/
def required {α : Type} (name : String) (shape : Shape α) : FieldShape :=
  ⟨name, true, fun json => do let _ ← shape json⟩

/-- A field that may be left out. -/
def defaulted {α : Type} (name : String) (shape : Shape α) : FieldShape :=
  ⟨name, false, fun json => do let _ ← shape json⟩

/-- Pairs the items of a list with the fields of a record. -/
def positional (type : String) (fields : List FieldShape) (items : List Json) :
    Except Mismatch (Dict Json) :=
  go 0 fields items
where
  go (position : Nat) : List FieldShape → List Json → Except Mismatch (Dict Json)
    | [], [] => .ok []
    | [], _ :: _ => .error (.wrongLength items.length "fewer elements in array")
    | field :: rest, [] =>
      if field.required then
        .error (.wrongLength position s!"struct {type} with {fields.length} elements")
      else go (position + 1) rest []
    | field :: rest, item :: others => do
      field.check item
      return (field.name, item) :: (← go (position + 1) rest others)

/-- The entries of a record under the names of its fields. -/
def record (type : String) (fields : List FieldShape) : Shape (Dict Json)
  | .object members => do
    members.forM fun m =>
      match fields.find? (·.name == m.1) with
      | some field => field.check m.2
      | none => .ok ()
    fields.forM fun field =>
      if field.required && !Dict.has members field.name then .error (.missingField field.name)
      else .ok ()
    return members
  | .array items => positional type fields items
  | found => .error (.wrongType found s!"struct {type}")

/-- Reads one field of a record, with a value for when it was left out. -/
def get {α : Type} (entries : Dict Json) (name : String) (shape : Shape α) (absent : Option α) :
    Except Mismatch α :=
  match entries.get? name, absent with
  | some json, _ => shape json
  | none, some value => .ok value
  | none, none => .error (.missingField name)

end Shape

end RelationalQuery.Json
