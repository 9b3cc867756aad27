/-!
# Moments

A `Moment` is a date, a time of day and an offset from universal time, all as they are written. Two
moments may stand for the same instant and be written differently; `Moment.same` compares instants.

`Moment.of?` is the only way a reader makes one. It checks the calendar, the clock and that the
instant itself lies in the range of years that are counted. A second numbered 60 is a leap second,
which may end any minute.
-/

namespace RelationalQuery.Calendar

/-- A date and time of day at an offset from universal time, given in minutes to the east. -/
structure Moment where
  year : Int
  month : Nat
  day : Nat
  hour : Nat
  minute : Nat
  second : Nat
  nanosecond : Nat
  offset : Int
  deriving DecidableEq, Repr

/-- Whether the year has a 29th of February. -/
def isLeap (year : Int) : Bool := year % 4 = 0 ∧ (year % 100 ≠ 0 ∨ year % 400 = 0)

/-- The number of days of a month. -/
def daysInMonth (year : Int) (month : Nat) : Nat :=
  if month = 2 then (if isLeap year then 29 else 28)
  else if month = 4 ∨ month = 6 ∨ month = 9 ∨ month = 11 then 30
  else 31

/-- The years that are counted. -/
def firstYear : Int := -262143

/-- The last year that is counted. -/
def lastYear : Int := 262142

/-- The number of days of so many months, from January on. -/
def daysOfMonths (year : Int) : Nat → Nat
  | 0 => 0
  | n + 1 => daysOfMonths year n + daysInMonth year (n + 1)

/-- The days before a date, from the first day of the year 0 on. -/
def dayNumber (year : Int) (month day : Nat) : Int :=
  let dayOfYear := daysOfMonths year (month - 1) + (day - 1)
  365 * year + (year + 3) / 4 - (year + 99) / 100 + (year + 399) / 400 + dayOfYear

/-- The nanoseconds of a second. -/
def perSecond : Nat := 1000000000

/-- The nanoseconds of a millisecond. -/
def perMillisecond : Nat := 1000000

namespace Moment

/-- Whether the date is in the calendar. -/
def hasDate (m : Moment) : Bool :=
  firstYear ≤ m.year && m.year ≤ lastYear && 1 ≤ m.month && m.month ≤ 12 && 1 ≤ m.day &&
    m.day ≤ daysInMonth m.year m.month

/-- Whether the time is on the clock. -/
def hasTime (m : Moment) : Bool :=
  m.hour < 24 && m.minute < 60 && m.second ≤ 60 && m.nanosecond < perSecond

/-- The minutes of universal time before the moment, from the first day of the year 0 on. -/
def universalMinute (m : Moment) : Int :=
  (dayNumber m.year m.month m.day * 24 + m.hour) * 60 + m.minute - m.offset

/-- Whether the instant lies in the counted years and the offset is less than a day. -/
def hasInstant (m : Moment) : Bool :=
  let day := m.universalMinute / (24 * 60)
  m.offset.natAbs < 24 * 60 && dayNumber firstYear 1 1 ≤ day && day ≤ dayNumber lastYear 12 31

/-- The moment with these parts, unless they name none. -/
def of? (m : Moment) : Option Moment :=
  if m.hasDate && m.hasTime && m.hasInstant then some m else none

/-- The instant, as minutes and nanoseconds of the minute. A leap second starts where the second
before it does, a second's worth of nanoseconds later. -/
def instant (m : Moment) : Int × Nat :=
  (m.universalMinute, m.second * perSecond + m.nanosecond)

/-- Whether two moments are the same instant. -/
def same (a b : Moment) : Bool := a.instant == b.instant

/-- The moment without what is below the millisecond. -/
def toMilliseconds (m : Moment) : Moment :=
  { m with nanosecond := m.nanosecond / perMillisecond * perMillisecond }

/-! ## Text -/

/-- A number with at least `width` digits. -/
def padded (width n : Nat) : List Char :=
  let digits := (toString n).toList
  List.replicate (width - digits.length) '0' ++ digits

/-- A year: four digits, or a sign and at least four digits when these do not suffice. -/
def yearText (year : Int) : List Char :=
  if 0 ≤ year ∧ year ≤ 9999 then padded 4 year.toNat
  else (if year < 0 then '-' else '+') :: padded 4 year.natAbs

/-- An offset: `Z` for none, else a sign, hours and minutes. -/
def offsetText (offset : Int) : List Char :=
  if offset = 0 then ['Z']
  else (if offset < 0 then '-' else '+') ::
    (padded 2 (offset.natAbs / 60) ++ ':' :: padded 2 (offset.natAbs % 60))

/-- The moment with exactly three digits of fraction: `1999-05-01T00:00:00.000Z`. -/
def chars (m : Moment) : List Char :=
  yearText m.year ++ '-' :: (padded 2 m.month ++ '-' :: (padded 2 m.day ++ 'T' ::
    (padded 2 m.hour ++ ':' :: (padded 2 m.minute ++ ':' :: (padded 2 m.second ++ '.' ::
      (padded 3 (m.nanosecond / perMillisecond) ++ offsetText m.offset))))))

/-- The text of a moment. -/
def text (m : Moment) : String := String.ofList m.chars

example : text ⟨1999, 5, 1, 0, 0, 0, 0, 0⟩ = "1999-05-01T00:00:00.000Z" := by decide +kernel
example : text ⟨12345, 1, 1, 9, 5, 7, 1999999, -210⟩ = "+12345-01-01T09:05:07.001-03:30" := by
  decide +kernel

end Moment

end RelationalQuery.Calendar
