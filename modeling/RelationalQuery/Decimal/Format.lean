import RelationalQuery.Decimal.Shortest

/-!
# Decimal text

A double is written with the digits of `Binary.shortest`. Where the point stands, and what is
written for whole numbers and for numbers that have no digits, are the decisions of a `Format`.

`plain` is the format of values that are shown to a reader, `document` that of JSON documents.
-/

namespace RelationalQuery.Decimal

/-- The decisions of one way to write doubles. -/
structure Format where
  tie : Tie
  /-- Exponents `first ≤ e < last` of the leading digit are written with a point alone, all others
  in scientific notation. Without a range a point alone is used throughout. -/
  positional : Option (Int × Int)
  /-- Written after a whole number that is written with a point alone. -/
  whole : String
  nan : String
  infinite : String
  negativeInfinite : String

/-- Text for readers: never an exponent, and whole numbers without a point. -/
def plain : Format := ⟨.up, none, "", "NaN", "inf", "-inf"⟩

/-- Text in JSON documents: an exponent from `10^16` up and below `10^-5`, and whole numbers with a
zero after the point. What is no number is `null`. -/
def document : Format := ⟨.even, some (-5, 16), ".0", "null", "null", "null"⟩

namespace Format

/-- Whether a number whose leading digit has exponent `e` is written with a point alone. -/
def isPositional (f : Format) (e : Int) : Bool :=
  match f.positional with
  | none => true
  | some (first, last) => first ≤ e && e < last

/-- The number `digits * 10^exponent` with a point alone. -/
def positionalText (f : Format) (digits : List Char) (exponent : Int) : List Char :=
  let point : Int := digits.length + exponent
  if 0 ≤ exponent then digits ++ List.replicate exponent.toNat '0' ++ f.whole.toList
  else if 0 < point then digits.take point.toNat ++ '.' :: digits.drop point.toNat
  else '0' :: '.' :: (List.replicate (-point).toNat '0' ++ digits)

/-- A number whose leading digit has exponent `e`, in scientific notation. -/
def scientificText (digits : List Char) (e : Int) : List Char :=
  let fraction := digits.drop 1
  digits.take 1 ++ (if fraction.isEmpty then [] else '.' :: fraction) ++
    'e' :: (if e < 0 then '-' else '+') :: (toString e.natAbs).toList

/-- A decimal number. -/
def numberText (f : Format) (x : Number) : List Char :=
  let digits := (toString x.coefficient).toList
  let e : Int := digits.length + x.exponent - 1
  if f.isPositional e then f.positionalText digits x.exponent else scientificText digits e

/-- The text of a double. -/
def text (f : Format) (x : Float) : String :=
  let sign := if isNegative x then "-" else ""
  match parts x with
  | .nan => f.nan
  | .infinite => if isNegative x then f.negativeInfinite else f.infinite
  | .zero => sign ++ "0" ++ f.whole
  | .finite b => sign ++ String.ofList (f.numberText (b.shortest f.tie))

end Format

example : plain.text 1e21 = "1000000000000000000000" := by decide +kernel
example : plain.text 0.1 = "0.1" := by decide +kernel
example : document.text 1e16 = "1e+16" := by decide +kernel
example : document.text 123456.75 = "123456.75" := by decide +kernel

end RelationalQuery.Decimal
