import RelationalQuery.Calendar.Moment
import RelationalQuery.Text.Blank

/-!
# Reading moments

Two readers. `internet?` takes the timestamp format of the Internet alone, where every part has its
fixed number of digits. `lenient?` takes what databases send: that format, or one of a few patterns
with parts of one or two digits, with or without seconds, time of day and offset.

A pattern is a list of `Part`s. What remains unread when a pattern ends makes the reading fail.
-/

namespace RelationalQuery.Calendar

open RelationalQuery.Text

/-- A reader of the front of a text. -/
abbrev Scan := StateT (List Char) Option

namespace Scan

/-- The unread characters. -/
def unread : Scan (List Char) := get

/-- Takes the next character, if it is `c`. -/
def char (c : Char) : Scan Unit := do
  match ← get with
  | d :: rest => if d = c then set rest else failure
  | [] => failure

/-- Takes the next character, if it is one of `cs`. -/
def oneOf (cs : List Char) : Scan Char := do
  match ← get with
  | d :: rest => if d ∈ cs then (do set rest; pure d) else failure
  | [] => failure

/-- Takes digits, as many as there are but at most `most`, and fails on fewer than `least`. -/
def digits (least : Nat) (most : Option Nat) : Scan (List Char) := do
  let cs ← get
  let run := cs.takeWhile isDigit
  let run := match most with
    | some n => run.take n
    | none => run
  if run.length < least then failure
  set (cs.drop run.length)
  pure run

/-- A number of at least one digit and at most `most`. -/
def number (least most : Nat) : Scan Nat := do return numeral (← digits least (some most))

/-- Skips white space. -/
def blanks : Scan Unit := modify trimLeft

/-- A fraction of a second in nanoseconds: at least one digit; those past the ninth are dropped. -/
def nanoseconds : Scan Nat := do
  let run ← digits 1 none
  let kept := run.take 9
  return numeral kept * Nat.pow 10 (9 - kept.length)

/-- A fraction after a point, or none. -/
def fraction : Scan Nat := do
  match ← get with
  | '.' :: rest => do
    set rest
    nanoseconds
  | _ => pure 0

/-- A year: a sign and any number of digits, or up to four digits. -/
def year : Scan Int := do
  match ← get with
  | '-' :: rest => do
    set rest
    return -(numeral (← digits 1 none) : Int)
  | '+' :: rest => do
    set rest
    return numeral (← digits 1 none)
  | _ => return (← number 1 4)

/-- An offset in minutes: a sign, two digits of hours, `between` and two digits of minutes. -/
def offset (between : Scan Unit) : Scan Int := do
  let sign ← oneOf ['+', '-', '−']
  let hours ← number 2 2
  between
  let minutes ← number 2 2
  if 60 ≤ minutes then failure
  let total : Nat := hours * 60 + minutes
  return if sign = '+' then total else -(total : Int)

end Scan

open Scan

/-- The moment at the epoch of the calendar, before its parts are read. -/
def blank : Moment := ⟨0, 1, 1, 0, 0, 0, 0, 0⟩

/-- The Internet's timestamp format at the front of a text. -/
def internet : Scan Moment := do
  let year ← number 4 4
  char '-'
  let month ← number 2 2
  char '-'
  let day ← number 2 2
  let _ ← oneOf ['T', 't', ' ']
  let hour ← number 2 2
  char ':'
  let minute ← number 2 2
  char ':'
  let second ← number 2 2
  let nanosecond ← fraction
  let offset ← match ← unread with
    | 'Z' :: rest => (do set rest; pure 0)
    | 'z' :: rest => (do set rest; pure 0)
    | _ => offset (char ':')
  return ⟨year, month, day, hour, minute, second, nanosecond, offset⟩

/-- Runs a reader over a whole text, and checks that its parts make a moment. -/
def whole? (scan : Scan Moment) (cs : List Char) : Option Moment :=
  match scan.run cs with
  | some (m, []) => Moment.of? m
  | _ => none

/-- The moment that a text in the Internet's timestamp format names. -/
def internet? (text : String) : Option Moment := whole? internet text.toList

/-! ## Patterns -/

/-- One part of a pattern. White space may stand before every number. -/
inductive Part
  | year
  | month
  | day
  | hour
  | minute
  | second
  /-- A fraction of a second, which may be missing. -/
  | fraction
  /-- An offset; colons and white space may stand between its hours and minutes. -/
  | offset
  /-- Any white space, or none. -/
  | space
  | literal (c : Char)
  deriving DecidableEq, Repr

/-- Reads one part into the moment read so far. -/
def Part.scan (m : Moment) : Part → Scan Moment
  | .year => do
    blanks
    return { m with year := ← Scan.year }
  | .month => do
    blanks
    return { m with month := ← number 1 2 }
  | .day => do
    blanks
    return { m with day := ← number 1 2 }
  | .hour => do
    blanks
    return { m with hour := ← number 1 2 }
  | .minute => do
    blanks
    return { m with minute := ← number 1 2 }
  | .second => do
    blanks
    return { m with second := ← number 1 2 }
  | .fraction => return { m with nanosecond := ← Scan.fraction }
  | .offset => do
    blanks
    return { m with offset := ← Scan.offset (modify (·.dropWhile fun c => c == ':' || isBlank c)) }
  | .space => do
    blanks
    return m
  | .literal c => do
    char c
    return m

/-- Reads the parts of a pattern in order. -/
def scanParts (parts : List Part) : Scan Moment := parts.foldlM Part.scan blank

/-- A date: `2024-03-01`. -/
def datePattern : List Part := [.year, .literal '-', .month, .literal '-', .day]

/-- A time of day without seconds: `10:30`. -/
def minutePattern : List Part := [.hour, .literal ':', .minute]

/-- A time of day with seconds: `10:30:00.5`. -/
def secondPattern : List Part := minutePattern ++ [.literal ':', .second, .fraction]

/-- The patterns of moments without the Internet's format, in the order in which they are tried. -/
def patterns : List (List Part) :=
  [datePattern ++ [.literal 'T'] ++ secondPattern,
    datePattern ++ [.space] ++ secondPattern,
    datePattern ++ [.literal 'T'] ++ minutePattern,
    datePattern ++ [.space] ++ minutePattern,
    datePattern ++ [.space] ++ secondPattern ++ [.offset],
    datePattern]

/-- The moment that a text names in one of the formats that databases use. Without an offset it is
universal time, and without a time of day midnight. -/
def lenientChars? (cs : List Char) : Option Moment :=
  let trimmed := trimChars cs
  whole? internet trimmed <|> patterns.findSome? fun parts => whole? (scanParts parts) trimmed

/-- Reads a text as `lenientChars?` does. -/
def lenient? (text : String) : Option Moment := lenientChars? text.toList

end RelationalQuery.Calendar
