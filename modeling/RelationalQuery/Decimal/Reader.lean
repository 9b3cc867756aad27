import RelationalQuery.Text.Blank

/-!
# Reading decimal text

A decimal text is a sign, digits, an optional fraction and an optional exponent; `Reading` holds its
parts. `toFloat` rounds them to the nearest double. Where whole numbers and others are told apart,
as in JSON, the parts that were written decide and not the value.
-/

namespace RelationalQuery.Decimal

open RelationalQuery.Text

/-- The parts of a decimal text. -/
structure Reading where
  negative : Bool
  whole : List Char
  fraction : Option (List Char)
  exponent : Option Int

namespace Reading

/-- The double nearest to the number. Exponents far outside the range of doubles are settled before
any power of ten is formed. -/
def toFloat (r : Reading) : Float :=
  let fraction := r.fraction.getD []
  let coefficient := numeral (r.whole ++ fraction)
  let exponent := r.exponent.getD 0 - fraction.length
  let magnitude :=
    if coefficient = 0 then 0
    else if exponent > 400 then 1 / 0
    else if exponent + (r.whole ++ fraction).length < -400 then 0
    else Float.ofScientific coefficient (exponent < 0) exponent.natAbs
  if r.negative then -magnitude else magnitude

/-- The integer that was written, if neither a fraction nor an exponent was. -/
def toInt? (r : Reading) : Option Int :=
  match r.fraction, r.exponent with
  | none, none => some (if r.negative then -(numeral r.whole : Int) else numeral r.whole)
  | _, _ => none

end Reading

/-- Takes a sign off the front, and says whether it was a minus. -/
def takeSign : List Char → Bool × List Char
  | '-' :: rest => (true, rest)
  | '+' :: rest => (false, rest)
  | cs => (false, cs)

/-- Takes an exponent off the front: `e` or `E`, a sign and at least one digit. -/
def takeExponent : List Char → Option Int × List Char
  | [] => (none, [])
  | c :: rest =>
    if c = 'e' ∨ c = 'E' then
      let (negative, after) := takeSign rest
      let digits := after.takeWhile isDigit
      if digits.isEmpty then (none, c :: rest)
      else
        let exponent : Int := if negative then -numeral digits else numeral digits
        (some exponent, after.dropWhile isDigit)
    else (none, c :: rest)

/-- Takes an unsigned decimal text off the front. -/
def takeUnsigned (negative : Bool) (cs : List Char) : Reading × List Char :=
  let whole := cs.takeWhile isDigit
  let afterWhole := cs.dropWhile isDigit
  let (fraction, afterFraction) := match afterWhole with
    | '.' :: rest => (some (rest.takeWhile isDigit), rest.dropWhile isDigit)
    | rest => (none, rest)
  let (exponent, rest) := takeExponent afterFraction
  (⟨negative, whole, fraction, exponent⟩, rest)

/-- The double that a text names: a decimal text, or a spelling of infinity or of no number, each
with an optional sign. -/
def float? (text : String) : Option Float :=
  let (negative, cs) := takeSign text.toList
  let word := asciiLower (String.ofList cs)
  if word = "inf" ∨ word = "infinity" then some (if negative then -(1 / 0) else 1 / 0)
  else if word = "nan" then some (0 / 0)
  else
    let (reading, rest) := takeUnsigned negative cs
    if rest.isEmpty ∧ ¬(reading.whole ++ reading.fraction.getD []).isEmpty then some reading.toFloat
    else none

end RelationalQuery.Decimal
