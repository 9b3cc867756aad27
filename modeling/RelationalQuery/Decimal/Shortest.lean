/-!
# The shortest decimal that reads back

A binary floating-point number stands for every real number that rounds to it. `shortest` gives the
decimal with the fewest digits among those, and of several such the one nearest to the number
itself.

## Shape of the search

The number is `m * 2^q`, and the reals that round to it reach half a unit up and half a unit down,
or a quarter down at a power of two. They include both ends exactly when `m` is even. On each
decimal grid, coarse to fine, only the two grid points next to the number can be the nearest one, so
the first grid with one of them inside gives the answer. Everything is compared in integers:
`Grid.up` scales binary units and `Grid.down` decimal ones.
-/

namespace RelationalQuery.Decimal

/-- The number `coefficient * 10^exponent`. -/
structure Number where
  coefficient : Nat
  exponent : Int
  deriving DecidableEq, Repr

/-- A finite positive binary number `mantissa * 2^exponent`; `lowest` says that the number below it
is half a unit closer than the one above. -/
structure Binary where
  mantissa : Nat
  exponent : Int
  lowest : Bool
  deriving DecidableEq, Repr

/-- Which of two equally near decimals is taken. -/
inductive Tie
  /-- The one with the even last digit. -/
  | even
  /-- The larger one. -/
  | up
  deriving DecidableEq, Repr

/-- The grid of the multiples of `10^exponent`, beside quarters of a unit `2^binary`. -/
structure Grid where
  exponent : Int
  binary : Int

namespace Grid

/-- So many quarter units, as an integer that can be compared with `down`. -/
def up (g : Grid) (a : Nat) : Nat :=
  a * Nat.pow 2 (g.binary - 2).toNat * Nat.pow 10 (-g.exponent).toNat

/-- So many grid steps, as an integer that can be compared with `up`. -/
def down (g : Grid) (b : Nat) : Nat :=
  b * Nat.pow 10 g.exponent.toNat * Nat.pow 2 (2 - g.binary).toNat

end Grid

/-- Whether the grid point `b` rounds to the binary number. -/
def Binary.covers (x : Binary) (g : Grid) (b : Nat) : Bool :=
  let low := g.up (4 * x.mantissa - (if x.lowest then 1 else 2))
  let high := g.up (4 * x.mantissa + 2)
  if x.mantissa % 2 = 0 then low ≤ g.down b && g.down b ≤ high
  else low < g.down b && g.down b < high

/-- The grid point that rounds to the binary number and is nearest to it, if any does. -/
def Binary.onGrid (x : Binary) (tie : Tie) (g : Grid) : Option Nat :=
  let value := g.up (4 * x.mantissa)
  let below := value / g.down 1
  let above := below + 1
  match x.covers g below, x.covers g above with
  | false, false => none
  | true, false => some below
  | false, true => some above
  | true, true =>
    let left := value - g.down below
    let right := g.down above - value
    if left < right then some below
    else if right < left then some above
    else match tie with
      | .up => some above
      | .even => some (if below % 2 = 0 then below else above)

/-- An exponent above that of every power of ten that could round to the number. -/
def Binary.topExponent (x : Binary) : Int :=
  ((Nat.log2 x.mantissa + 1 : Nat) + x.exponent) * 30103 / 100000 + 1

/-- The shortest decimal that rounds to the number. Seventeen digits always suffice, so twenty grids
are enough. -/
def Binary.shortest (x : Binary) (tie : Tie) : Number :=
  let hit := (List.range 20).findSome? fun step =>
    let exponent := x.topExponent - (step : Nat)
    (x.onGrid tie ⟨exponent, x.exponent⟩).map (Number.mk · exponent)
  hit.getD ⟨x.mantissa, x.exponent⟩

/-- The parts of a double: a zero, a number or none. -/
inductive Parts
  | zero
  | finite (x : Binary)
  | infinite
  | nan
  deriving DecidableEq, Repr

/-- Whether the sign bit, the highest of the 64 bits, is set. -/
def isNegative (x : Float) : Bool := 0x8000000000000000 ≤ x.toBits.toNat

/-- The mantissa of a double whose 52 bits of fraction are zero. -/
def hiddenBit : Nat := 0x10000000000000

/-- The absolute value of a double, taken apart: 52 bits of fraction below 11 bits of exponent. -/
def parts (x : Float) : Parts :=
  let bits := x.toBits.toNat
  let fraction : Nat := bits % hiddenBit
  let biased : Nat := bits / hiddenBit % 2048
  if biased = 2047 then if fraction = 0 then .infinite else .nan
  else if biased = 0 then
    if fraction = 0 then .zero else .finite ⟨fraction, -1074, false⟩
  else .finite ⟨hiddenBit + fraction, (biased : Int) - 1075, fraction = 0 ∧ biased ≠ 1⟩

end RelationalQuery.Decimal
