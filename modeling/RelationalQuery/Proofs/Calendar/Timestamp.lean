import RelationalQuery.Proofs.Calendar.Scanning

/-!
# Timestamps

A `Timestamp` is a date and a time of day that are on the calendar and on the clock, as they are
written: a year of four digits, all other parts of two digits, and any fraction. What `internet` makes
of such a text is told part by part, once for all offsets that may stand behind it
(`run_internet_date`, `run_afterDate_time`).

Every moment that was read is such a timestamp at an offset, but for what is below the millisecond
(`exists_timestamp`). So its text is read back (`internet?_text`).
-/

namespace RelationalQuery.Calendar

open Text
open Moment (padded)
open Scan

variable {rest : List Char}

/-! ## Days -/

/-- No month has more days than 31. -/
theorem daysInMonth_le (year : Int) (month : Nat) : daysInMonth year month ≤ 31 := by
  rw [daysInMonth]
  split
  · split <;> decide
  · split <;> decide

theorem daysOfMonths_le (year : Int) (n : Nat) : daysOfMonths year n ≤ 31 * n := by
  induction n with
  | zero => exact Nat.le_refl 0
  | succ n ih =>
    have hmonth := daysInMonth_le year (n + 1)
    rw [daysOfMonths]
    omega

/-! ## Timestamps -/

/-- A date and a time of day as they are written, with a year of four digits, all other parts of two
digits, and the digits of a fraction, of which there may be none. -/
structure Timestamp where
  year : Nat
  month : Nat
  day : Nat
  hour : Nat
  minute : Nat
  second : Nat
  fraction : List Char
  year_le : year ≤ 9999
  month_mem : 1 ≤ month ∧ month ≤ 12
  day_mem : 1 ≤ day ∧ day ≤ daysInMonth year month
  hour_lt : hour < 24
  minute_lt : minute < 60
  /-- A second numbered 60 is a leap second. -/
  second_le : second ≤ 60
  fraction_digits : fraction.all isDigit

namespace Timestamp

/-- The moment at an offset. -/
def moment (t : Timestamp) (offset : Int) : Moment :=
  ⟨t.year, t.month, t.day, t.hour, t.minute, t.second, nanosecondsOf t.fraction, offset⟩

/-- The date: `2024-03-01`. -/
def date (t : Timestamp) : List Char :=
  padded 4 t.year ++ '-' :: (padded 2 t.month ++ '-' :: padded 2 t.day)

/-- The time of day without seconds: `10:30`. -/
def clock (t : Timestamp) : List Char := padded 2 t.hour ++ ':' :: padded 2 t.minute

/-- The time of day: `10:30:00.5`. -/
def time (t : Timestamp) : List Char :=
  t.clock ++ ':' :: (padded 2 t.second ++ fractionText t.fraction)

variable (t : Timestamp)

theorem day_le : t.day ≤ 31 := t.day_mem.2.trans (daysInMonth_le t.year t.month)

/-- The reading of an Internet timestamp behind its date. -/
def afterDate : Scan Moment := do
  let _ ← oneOf ['T', 't', ' ']
  let hour ← number 2 2
  char ':'
  let minute ← number 2 2
  char ':'
  let second ← number 2 2
  let nanosecond ← Scan.fraction
  let offset ← match ← unread with
    | 'Z' :: rest => (do set rest; pure 0)
    | 'z' :: rest => (do set rest; pure 0)
    | _ => Scan.offset (char ':')
  return ⟨t.year, t.month, t.day, hour, minute, second, nanosecond, offset⟩

/-- The reading of an Internet timestamp behind its time of day. -/
def afterTime : Scan Moment := do
  let offset ← match ← unread with
    | 'Z' :: rest => (do set rest; pure 0)
    | 'z' :: rest => (do set rest; pure 0)
    | _ => Scan.offset (char ':')
  return t.moment offset

/-- The date of a timestamp is read. -/
theorem run_internet_date (rest : List Char) :
    internet.run (t.date ++ rest) = t.afterDate.run rest := by
  have hmonth : t.month < 100 := by have := t.month_mem; omega
  have hday : t.day < 100 := by have := t.day_le; omega
  have hyear : (number 4 4).run (padded 4 t.year ++ '-' :: (padded 2 t.month ++ '-' ::
      (padded 2 t.day ++ rest))) = _ :=
    run_number (by decide) (by decide) (Nat.lt_succ_of_le t.year_le)
  rw [date, List.append_assoc, List.cons_append, List.append_assoc, List.cons_append, internet,
    run_bind_some hyear, run_bind_some (run_char _ _), run_bind_some (run_twoDigits hmonth),
    run_bind_some (run_char _ _), run_bind_some (run_twoDigits hday)]
  rfl

/-- The time of day of a timestamp is read. -/
theorem run_afterDate_time {separator : Char} (hseparator : separator ∈ ['T', 't', ' '])
    {rest : List Char} (hrest : EndsFraction rest) :
    t.afterDate.run (separator :: (t.time ++ rest)) = t.afterTime.run rest := by
  have hhour : t.hour < 100 := by have := t.hour_lt; omega
  have hminute : t.minute < 100 := by have := t.minute_lt; omega
  have hsecond : t.second < 100 := by have := t.second_le; omega
  rw [time, clock, List.append_assoc, List.append_assoc, List.cons_append, List.cons_append,
    List.append_assoc, afterDate, run_bind_some (run_oneOf hseparator),
    run_bind_some (run_twoDigits hhour), run_bind_some (run_char _ _),
    run_bind_some (run_twoDigits hminute), run_bind_some (run_char _ _),
    run_bind_some (run_twoDigits hsecond),
    run_bind_some (run_fraction t.fraction_digits hrest)]
  rfl

/-- Without seconds no Internet timestamp is read. -/
theorem run_afterDate_clock {separator : Char} (hseparator : separator ∈ ['T', 't', ' ']) :
    t.afterDate.run (separator :: t.clock) = none := by
  have hhour : t.hour < 100 := by have := t.hour_lt; omega
  have hminute : t.minute < 100 := by have := t.minute_lt; omega
  rw [clock, ← List.append_nil (padded 2 t.minute), afterDate, run_bind_some (run_oneOf hseparator),
    run_bind_some (run_twoDigits hhour), run_bind_some (run_char _ _),
    run_bind_some (run_twoDigits hminute)]
  rfl

/-- Without a time of day no Internet timestamp is read. -/
theorem run_afterDate_nil : t.afterDate.run [] = none := rfl

/-! ### Offsets -/

theorem run_afterTime_nil : t.afterTime.run [] = none := rfl

theorem run_afterTime_universal : t.afterTime.run ['Z'] = some (t.moment 0, []) := rfl

/-- Behind the time of day a sign starts an offset with a colon. -/
theorem run_afterTime_signed {sign : Char} (hsign : sign ∈ signs) (cs : List Char) :
    t.afterTime.run (sign :: cs) =
      ((Scan.offset (char ':')).run (sign :: cs)).map fun r => (t.moment r.1, r.2) := by
  have hoffset : t.afterTime.run (sign :: cs) =
      (Scan.offset (char ':') >>= fun offset => pure (t.moment offset)).run (sign :: cs) := by
    rcases mem_signs_iff.mp hsign with rfl | rfl | rfl <;> rfl
  rw [hoffset, StateT.run_bind]
  cases (Scan.offset (char ':')).run (sign :: cs) <;> rfl

/-! ### Ranges -/

/-- A timestamp is a moment at every offset of less than a day. -/
theorem of?_moment {offset : Int} (hoffset : offset.natAbs < 24 * 60) :
    Moment.of? (t.moment offset) = some (t.moment offset) := by
  have hdate : (t.moment offset).hasDate := by
    have hyear := t.year_le
    have hmonth := t.month_mem
    have hday := t.day_mem
    simp only [Moment.hasDate, Bool.and_eq_true, decide_eq_true_eq]
    simp only [moment, firstYear, lastYear]
    omega
  have htime : (t.moment offset).hasTime := by
    have hfraction := nanosecondsOf_lt t.fraction_digits
    simp only [Moment.hasTime, Bool.and_eq_true, decide_eq_true_eq]
    exact ⟨⟨⟨t.hour_lt, t.minute_lt⟩, t.second_le⟩, hfraction⟩
  have hinstant : (t.moment offset).hasInstant := by
    have hyear := t.year_le
    have hmonths := daysOfMonths_le t.year (t.month - 1)
    have hmonth := t.month_mem
    have hday := t.day_le
    have hhour := t.hour_lt
    have hminute := t.minute_lt
    have hfirst : dayNumber firstYear 1 1 ≤ -2 := by decide
    have hlast : 365 * 20000 ≤ dayNumber lastYear 12 31 := by decide
    have hnumber : 0 ≤ dayNumber t.year t.month t.day ∧
        dayNumber t.year t.month t.day ≤ 365 * 10000 + 10000 := by
      simp only [dayNumber]
      omega
    simp only [Moment.hasInstant, Bool.and_eq_true, decide_eq_true_eq]
    simp only [Moment.universalMinute, moment]
    omega
  rw [Moment.of?, hdate, htime, hinstant]
  rfl

/-- No timestamp is a moment at an offset of a day or more. -/
theorem of?_moment_none {offset : Int} (hoffset : 24 * 60 ≤ offset.natAbs) :
    Moment.of? (t.moment offset) = none := by
  have hinstant : (t.moment offset).hasInstant = false := by
    have hnot : ¬ (t.moment offset).offset.natAbs < 24 * 60 := Nat.not_lt.mpr hoffset
    simp only [Moment.hasInstant, hnot, decide_false, Bool.false_and]
  rw [Moment.of?, hinstant, Bool.and_false]
  rfl

end Timestamp

/-! ## Whole texts -/

variable {scan : Scan Moment} {m : Moment} {cs : List Char}

/-- What two readers make of two texts depends on their runs alone. -/
theorem whole?_congr {other : Scan Moment} {cs' : List Char} (h : scan.run cs = other.run cs') :
    whole? scan cs = whole? other cs' := by
  rw [whole?, h, whole?]

theorem whole?_of_run (h : scan.run cs = some (m, [])) : whole? scan cs = Moment.of? m := by
  rw [whole?, h]

theorem whole?_of_run_none (h : scan.run cs = none) : whole? scan cs = none := by
  rw [whole?, h]

/-- A text is refused if anything of it remains unread. -/
theorem whole?_of_run_cons {c : Char} (h : scan.run cs = some (m, c :: rest)) :
    whole? scan cs = none := by
  rw [whole?, h]

namespace Timestamp

variable (t : Timestamp)

/-- An Internet timestamp of universal time. -/
theorem whole?_internet_universal :
    whole? internet (t.date ++ 'T' :: (t.time ++ ['Z'])) = some (t.moment 0) := by
  have hends : EndsFraction ['Z'] := rfl
  have hzero : (0 : Int).natAbs < 24 * 60 := by decide
  rw [← t.of?_moment hzero]
  apply whole?_of_run
  rw [run_internet_date, run_afterDate_time t (by decide) hends, run_afterTime_universal]

/-- A fraction ends at a sign. -/
theorem endsFraction_sign {sign : Char} (hsign : sign ∈ signs) (cs : List Char) :
    EndsFraction (sign :: cs) := by
  rcases mem_signs_iff.mp hsign with rfl | rfl | rfl <;> rfl

/-- An Internet timestamp with an offset. -/
theorem whole?_internet_signed {sign : Char} {hours minutes : Nat} (hsign : sign ∈ signs)
    (hhours : hours < 100) (hminutes : minutes < 100) :
    whole? internet
        (t.date ++ 'T' :: (t.time ++ sign :: (padded 2 hours ++ ':' :: padded 2 minutes))) =
      if minutes < 60 then Moment.of? (t.moment (minutesEast sign hours minutes)) else none := by
  have hcolon : (char ':').run (':' :: padded 2 minutes) = some ((), padded 2 minutes ++ []) := by
    rw [run_char, List.append_nil]
  have hrun : internet.run
      (t.date ++ 'T' :: (t.time ++ sign :: (padded 2 hours ++ ':' :: padded 2 minutes))) =
        (if minutes < 60 then some (minutesEast sign hours minutes, []) else none).map
          fun r => (t.moment r.1, r.2) := by
    rw [run_internet_date, run_afterDate_time t (by decide) (endsFraction_sign hsign _),
      run_afterTime_signed t hsign, run_offset hsign hhours hminutes hcolon]
  by_cases hlt : minutes < 60
  · rw [if_pos hlt] at hrun ⊢
    exact whole?_of_run hrun
  · rw [if_neg hlt] at hrun ⊢
    exact whole?_of_run_none hrun

end Timestamp

/-! ## Reading back -/

/-- Whether a reader gives nothing but results with a property. -/
def Gives {α : Type} (p : α → Prop) (scan : Scan α) : Prop :=
  ∀ cs result rest, scan.run cs = some (result, rest) → p result

theorem Gives.bind {α β : Type} {q : α → Prop} {p : β → Prop} {scan : Scan α} {next : α → Scan β}
    (hscan : Gives q scan) (hnext : ∀ result, q result → Gives p (next result)) :
    Gives p (scan >>= next) := by
  intro cs result rest h
  rw [StateT.run_bind] at h
  obtain ⟨⟨first, between⟩, hfirst, hrest⟩ := Option.bind_eq_some_iff.mp h
  exact hnext first (hscan cs first between hfirst) between result rest hrest

theorem gives_pure {α : Type} {p : α → Prop} {result : α} (h : p result) :
    Gives p (pure result : Scan α) := by
  intro cs other rest hrun
  obtain ⟨rfl, -⟩ := Prod.mk.inj (Option.some.inj hrun)
  exact h

/-- Nothing is known of what a reader gives. -/
theorem gives_true {α : Type} (scan : Scan α) : Gives (fun _ => True) scan :=
  fun _ _ _ _ => trivial

/-- A number of at most so many digits. -/
theorem gives_number (least most : Nat) : Gives (· < 10 ^ most) (number least most) := by
  have hdigits : Gives (fun digits => digits.all isDigit ∧ digits.length ≤ most)
      (Scan.digits least (some most)) := by
    intro cs digits rest h
    rw [run_digits_bounded] at h
    split at h
    · cases h
    · obtain ⟨rfl, -⟩ := Prod.mk.inj (Option.some.inj h)
      refine ⟨?_, List.length_take_le _ _⟩
      rw [List.all_eq_true]
      exact fun c hc => List.all_eq_true.mp List.all_takeWhile c (List.mem_of_mem_take hc)
  have hnumber : ∀ digits, (digits.all isDigit ∧ digits.length ≤ most) →
      Gives (· < 10 ^ most) (pure (numeral digits) : Scan Nat) := by
    rintro digits ⟨hall, hlength⟩
    apply gives_pure
    exact (numeral_lt hall).trans_le (Nat.pow_le_pow_right (by decide) hlength)
  exact hdigits.bind hnumber

/-- The year of an Internet timestamp has four digits. -/
theorem gives_internet : Gives (fun m => 0 ≤ m.year ∧ m.year ≤ 9999) internet := by
  refine (gives_number 4 4).bind fun year hyear => ?_
  iterate 11 refine (gives_true _).bind fun _ _ => ?_
  refine (gives_true _).bind fun cs _ => ?_
  have hfour : 0 ≤ (year : Int) ∧ (year : Int) ≤ 9999 := by omega
  split <;> exact (gives_true _).bind fun _ _ => gives_pure hfour

/-- An offset is that of its hours and minutes. -/
theorem minutesEast_split (offset : Int) :
    minutesEast (if offset < 0 then '-' else '+') (offset.natAbs / 60) (offset.natAbs % 60) =
      offset := by
  have htotal : offset.natAbs / 60 * 60 + offset.natAbs % 60 = offset.natAbs :=
    Nat.div_add_mod' offset.natAbs 60
  rw [minutesEast, htotal]
  by_cases hneg : offset < 0
  · rw [if_pos hneg, if_neg (by decide)]
    omega
  · rw [if_neg hneg, if_pos rfl]
    omega

/-- What is known of a moment that was read: it is what the reader made of the text, on the calendar,
on the clock and within the range of instants. -/
theorem of_whole? (h : whole? scan cs = some m) :
    scan.run cs = some (m, []) ∧ m.hasDate ∧ m.hasTime ∧ m.hasInstant := by
  rw [whole?] at h
  split at h
  · next read hrun =>
    rw [Moment.of?] at h
    split at h
    · next hvalid =>
      obtain rfl := Option.some.inj h
      rw [Bool.and_eq_true, Bool.and_eq_true] at hvalid
      exact ⟨hrun, hvalid.1.1, hvalid.1.2, hvalid.2⟩
    · cases h
  · cases h

/-- Three digits of a fraction are milliseconds. -/
theorem nanosecondsOf_padded {n : Nat} (hn : n < 1000) :
    nanosecondsOf (padded 3 n) = n * perMillisecond := by
  have htake : (padded 3 n ++ List.replicate 9 '0').take 9 = padded 3 n ++ List.replicate 6 '0' := by
    rw [List.take_append, length_padded (by decide) hn, List.take_of_length_le
      (by rw [length_padded (by decide) hn]; decide)]
    rfl
  rw [nanosecondsOf, htake, numeral_append, numeral_padded, numeral_replicate_zero,
    List.length_replicate, Nat.add_zero]
  rfl

/-- Every Internet timestamp that was read is one of milliseconds at an offset, except for what is
below the millisecond. -/
theorem exists_timestamp {d : Moment} (h : whole? internet cs = some d) :
    ∃ t : Timestamp, t.moment d.offset = d.toMilliseconds ∧ d.offset.natAbs < 24 * 60 ∧
      d.chars = t.date ++ 'T' :: (t.time ++ Moment.offsetText d.offset) := by
  obtain ⟨hrun, hdate, htime, hinstant⟩ := of_whole? h
  obtain ⟨hlow, hhigh⟩ := gives_internet cs d [] hrun
  simp only [Moment.hasDate, Bool.and_eq_true, decide_eq_true_eq] at hdate
  simp only [Moment.hasTime, Bool.and_eq_true, decide_eq_true_eq] at htime
  simp only [Moment.hasInstant, Bool.and_eq_true, decide_eq_true_eq] at hinstant
  have hyear : (d.year.toNat : Int) = d.year := Int.toNat_of_nonneg hlow
  refine ⟨{
    year := d.year.toNat
    month := d.month
    day := d.day
    hour := d.hour
    minute := d.minute
    second := d.second
    fraction := padded 3 (d.nanosecond / perMillisecond)
    year_le := by omega
    month_mem := ⟨hdate.1.1.1.2, hdate.1.1.2⟩
    day_mem := ⟨hdate.1.2, by rw [hyear]; exact hdate.2⟩
    hour_lt := htime.1.1.1
    minute_lt := htime.1.1.2
    second_le := htime.1.2
    fraction_digits := all_isDigit_padded _ _ }, ?_, hinstant.1.1, ?_⟩
  · have hnanosecond : d.nanosecond / perMillisecond < 1000 :=
      Nat.div_lt_of_lt_mul htime.2
    show (⟨d.year.toNat, d.month, d.day, d.hour, d.minute, d.second,
      nanosecondsOf (padded 3 (d.nanosecond / perMillisecond)), d.offset⟩ : Moment) = d.toMilliseconds
    rw [hyear, nanosecondsOf_padded hnanosecond]
    rfl
  · have hpadded := padded_ne_nil 3 (d.nanosecond / perMillisecond)
    simp only [Moment.chars, Moment.yearText, if_pos (And.intro hlow hhigh), Timestamp.date,
      Timestamp.time, Timestamp.clock, fractionText, if_neg hpadded, List.append_assoc,
      List.cons_append]

namespace Timestamp

variable (t : Timestamp)

/-- The offset of a moment is read back. -/
theorem run_afterTime_offsetText {offset : Int} (hoffset : offset.natAbs < 24 * 60) :
    t.afterTime.run (Moment.offsetText offset) = some (t.moment offset, []) := by
  rw [Moment.offsetText]
  split
  · next hzero =>
    subst hzero
    exact t.run_afterTime_universal
  · next hne =>
    have hminutes : offset.natAbs % 60 < 60 := Nat.mod_lt _ (by decide)
    have hsplit := Nat.div_add_mod offset.natAbs 60
    have hsign : (if offset < 0 then '-' else '+') ∈ signs := by split <;> decide
    have hcolon : (char ':').run (':' :: padded 2 (offset.natAbs % 60)) =
        some ((), padded 2 (offset.natAbs % 60) ++ []) := by
      rw [run_char, List.append_nil]
    rw [run_afterTime_signed t hsign, run_offset hsign (by omega) (by omega) hcolon,
      if_pos hminutes, minutesEast_split]
    rfl

theorem endsFraction_offsetText (offset : Int) : EndsFraction (Moment.offsetText offset) := by
  rw [Moment.offsetText]
  split
  · rfl
  · split <;> rfl

/-- The text of a moment of milliseconds is read back. -/
theorem whole?_internet_offsetText {offset : Int} (hoffset : offset.natAbs < 24 * 60) :
    whole? internet (t.date ++ 'T' :: (t.time ++ Moment.offsetText offset)) =
      some (t.moment offset) := by
  rw [← t.of?_moment hoffset]
  apply whole?_of_run
  rw [run_internet_date, run_afterDate_time t (by decide) (endsFraction_offsetText offset),
    run_afterTime_offsetText t hoffset]

end Timestamp

/-- What is written below the millisecond does not show in the text of a moment. -/
theorem chars_toMilliseconds (d : Moment) : d.toMilliseconds.chars = d.chars := by
  have hfraction : d.nanosecond / perMillisecond * perMillisecond / perMillisecond =
      d.nanosecond / perMillisecond := Nat.mul_div_cancel _ (by decide)
  simp only [Moment.chars, Moment.toMilliseconds, hfraction]

/-- The text of a moment that was read is read back, but for what is below the millisecond. -/
theorem internet?_text {s : String} {d : Moment} (h : internet? s = some d) :
    internet? d.text = some d.toMilliseconds := by
  obtain ⟨t, hmoment, hoffset, hchars⟩ := exists_timestamp h
  rw [internet?, Moment.text, String.toList_ofList, hchars, t.whole?_internet_offsetText hoffset,
    hmoment]

end RelationalQuery.Calendar
