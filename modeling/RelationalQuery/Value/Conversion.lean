import RelationalQuery.Base64
import RelationalQuery.Text.Blank
import RelationalQuery.Value.Basic

/-!
# Conversions of values

Drivers send counts as integers, as decimal text or as floating-point numbers. `Value.toInt` reads
each of these exactly, or fails: no digit is dropped and no text wraps around. Bytes arrive as text
in base 64, which `Value.bytesOfText` reads only in its one canonical form.
-/

namespace RelationalQuery

/-- A value that cannot be converted: what it is, and what was wanted. -/
structure ConversionFailure where
  source : String
  target : String
  deriving DecidableEq, Repr

/-- The text of a failed conversion. -/
def ConversionFailure.message (failure : ConversionFailure) : String :=
  s!"Unable to convert value from {failure.source} to {failure.target}"

namespace Value

open Text

/-- The number that an optional sign and at least one ASCII digit spell. -/
def decimalInt? (cs : List Char) : Option Int :=
  let unsigned? (digits : List Char) : Option Nat :=
    if digits.isEmpty ∨ ¬digits.all isDigit then none else some (numeral digits)
  match cs with
  | '-' :: digits => (unsigned? digits).map fun n => -(n : Int)
  | '+' :: digits => (unsigned? digits).map fun n => (n : Int)
  | digits => (unsigned? digits).map fun n => (n : Int)

/-- The 64-bit integer with this value, if there is one. -/
def int64? (n : Int) : Option Int64 :=
  if Int64.minValue.toInt ≤ n ∧ n ≤ Int64.maxValue.toInt then some (Int64.ofInt n) else none

/-- The 64-bit integer that a text spells, with white space around it allowed. -/
def parseInt? (text : String) : Option Int64 := decimalInt? (trimChars text.toList) >>= int64?

/-- Whether a floating-point number has no fraction. -/
def isWhole (x : Float) : Bool := x.isFinite && x.floor == x

/-- The value as a 64-bit integer. A floating-point number must have no fraction and is cut off at
the ends of the range. -/
def toInt : Value → Except ConversionFailure Int64
  | int n => .ok n
  | text s =>
    match parseInt? s with
    | some n => .ok n
    | none => .error ⟨"string", "i64"⟩
  | float x => if isWhole x then .ok x.toInt64 else .error ⟨"float", "i64"⟩
  | value => .error ⟨value.kind, "i64"⟩

/-- The bytes that a text in base 64 stands for. -/
def bytesOfText (text : String) : Except ConversionFailure (List UInt8) :=
  match Base64.decode text with
  | some decoded => .ok decoded
  | none => .error ⟨"base64 encoded bytes", "QueryValue::Bytes"⟩

end Value

end RelationalQuery
