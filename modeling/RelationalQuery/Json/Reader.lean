import RelationalQuery.Decimal.Reader
import RelationalQuery.Json.Basic

/-!
# Reading JSON text

A number that is written without fraction and exponent is an integer if it fits 64 bits, with or
without sign; every other number is the nearest floating-point number, and so is a zero with a sign.
Of several members with one key the last value counts, in the place of the first.

The readers take the front of a text off and return the rest. They call each other at most once for
every character, so the length of the text bounds their depth.
-/

namespace RelationalQuery.Json

open RelationalQuery.Decimal RelationalQuery.Text

/-- Skips the white space of JSON. -/
def skip (cs : List Char) : List Char :=
  cs.dropWhile fun c => c = ' ' ∨ c = '\t' ∨ c = '\n' ∨ c = '\r'

/-- The number of a hexadecimal digit. -/
def hexValue? (c : Char) : Option Nat :=
  if '0' ≤ c ∧ c ≤ '9' then some (c.toNat - 48)
  else if 'a' ≤ c ∧ c ≤ 'f' then some (c.toNat - 87)
  else if 'A' ≤ c ∧ c ≤ 'F' then some (c.toNat - 55)
  else none

/-- The number of four hexadecimal digits. -/
def unit? (a b c d : Char) : Option Nat := do
  return (((← hexValue? a) * 16 + (← hexValue? b)) * 16 + (← hexValue? c)) * 16 + (← hexValue? d)

/-- The character of a short escape. -/
def shortEscape? (c : Char) : Option Char :=
  if c = '"' ∨ c = '\\' ∨ c = '/' then some c
  else if c = 'n' then some '\n'
  else if c = 'r' then some '\r'
  else if c = 't' then some '\t'
  else if c = 'b' then some '\x08'
  else if c = 'f' then some '\x0c'
  else none

/-- The characters of a string up to its closing quote, and the rest after it. -/
def stringBody (sofar : List Char) : List Char → Option (List Char × List Char)
  | '"' :: rest => some (sofar.reverse, rest)
  | '\\' :: 'u' :: a :: b :: c :: d :: '\\' :: 'u' :: e :: f :: g :: h :: rest => do
    let high ← unit? a b c d
    if 0xd800 ≤ high ∧ high < 0xdc00 then
      let low ← unit? e f g h
      if 0xdc00 ≤ low ∧ low < 0xe000 then
        stringBody (Char.ofNat (0x10000 + (high - 0xd800) * 0x400 + (low - 0xdc00)) :: sofar) rest
      else none
    else if 0xdc00 ≤ high ∧ high < 0xe000 then none
    else stringBody (Char.ofNat high :: sofar) ('\\' :: 'u' :: e :: f :: g :: h :: rest)
  | '\\' :: 'u' :: a :: b :: c :: d :: rest => do
    let code ← unit? a b c d
    if 0xd800 ≤ code ∧ code < 0xe000 then none
    else stringBody (Char.ofNat code :: sofar) rest
  | '\\' :: c :: rest => do stringBody ((← shortEscape? c) :: sofar) rest
  | c :: rest => if c.toNat < 0x20 then none else stringBody (c :: sofar) rest
  | [] => none
  termination_by cs => cs.length

/-- The document of a number. -/
def ofReading (r : Reading) : Json :=
  match r.toInt? with
  | some n =>
    if r.negative ∧ n = 0 then float r.toFloat
    else if Int64.minValue.toInt ≤ n ∧ n < UInt64.size then int n
    else float r.toFloat
  | none => float r.toFloat

/-- A number at the front of a text. -/
def number? (cs : List Char) : Option (Json × List Char) := do
  let (negative, digits) := match cs with
    | '-' :: rest => (true, rest)
    | _ => (false, cs)
  let (reading, rest) := takeUnsigned negative digits
  if reading.whole.isEmpty ∨ reading.fraction = some [] then none
  else return (ofReading reading, rest)

mutual

/-- A document at the front of a text. -/
def value? : Nat → List Char → Option (Json × List Char)
  | 0, _ => none
  | n + 1, cs =>
    match skip cs with
    | 'n' :: 'u' :: 'l' :: 'l' :: rest => some (null, rest)
    | 't' :: 'r' :: 'u' :: 'e' :: rest => some (bool true, rest)
    | 'f' :: 'a' :: 'l' :: 's' :: 'e' :: rest => some (bool false, rest)
    | '"' :: rest => do
      let (s, rest) ← stringBody [] rest
      return (string (String.ofList s), rest)
    | '[' :: rest =>
      match skip rest with
      | ']' :: rest => some (array [], rest)
      | rest => do
        let (items, rest) ← items? n rest
        return (array items, rest)
    | '\x7b' :: rest =>
      match skip rest with
      | '\x7d' :: rest => some (object [], rest)
      | rest => do
        let (members, rest) ← members? n rest
        return (object (Dict.ofList members), rest)
    | rest => number? rest

/-- The items of a list up to its closing bracket. -/
def items? : Nat → List Char → Option (List Json × List Char)
  | 0, _ => none
  | n + 1, cs => do
    let (item, rest) ← value? n cs
    match skip rest with
    | ',' :: rest => do
      let (items, rest) ← items? n rest
      return (item :: items, rest)
    | ']' :: rest => return ([item], rest)
    | _ => none

/-- The members of an object up to its closing brace. -/
def members? : Nat → List Char → Option (List (String × Json) × List Char)
  | 0, _ => none
  | n + 1, cs => do
    match skip cs with
    | '"' :: rest => do
      let (key, rest) ← stringBody [] rest
      match skip rest with
      | ':' :: rest => do
        let (value, rest) ← value? n rest
        let member := (String.ofList key, value)
        match skip rest with
        | ',' :: rest => do
          let (members, rest) ← members? n rest
          return (member :: members, rest)
        | '\x7d' :: rest => return ([member], rest)
        | _ => none
      | _ => none
    | _ => none

end

/-- The document that a text spells. -/
def ofText? (text : String) : Option Json :=
  let cs := text.toList
  match value? (cs.length + 1) cs with
  | some (json, rest) => if (skip rest).isEmpty then some json else none
  | none => none

end RelationalQuery.Json
