import RelationalQuery.Proofs.Calendar.Timestamp

/-!
# The formats of databases

Databases send dates in one of seven formats, which are tried in order: the Internet's, then those of
`patterns`. All of them start with a date, so what a text stands for is settled by what stands behind
its date (`lenientChars?_date`): every format in front of the one that fits either meets a character
that it does not expect there or leaves some of the text unread.

A text then stands for the moment that one Internet timestamp names (`dates_agree`): of universal time
where it has no offset, of the first second of the minute where it has no seconds, and of midnight
where it is no more than a date.
-/

namespace RelationalQuery.Calendar

open Text
open Moment (padded)
open Scan

variable {m m' : Moment} {part : Part} {front back parts : List Part} {cs rest : List Char} {n : Nat}

/-! ## Patterns -/

/-- Reads the parts of a pattern into a moment of which other parts have been read. -/
def scanFrom (m : Moment) (parts : List Part) : Scan Moment := parts.foldlM Part.scan m

theorem run_scanFrom_nil (m : Moment) (cs : List Char) : (scanFrom m []).run cs = some (m, cs) := rfl

theorem run_scanFrom_cons (h : (part.scan m).run cs = some (m', rest)) :
    (scanFrom m (part :: parts)).run cs = (scanFrom m' parts).run rest := by
  rw [scanFrom, List.foldlM_cons, run_bind_some h]
  rfl

theorem run_scanFrom_cons_none (h : (part.scan m).run cs = none) :
    (scanFrom m (part :: parts)).run cs = none := by
  rw [scanFrom, List.foldlM_cons, run_bind_none h]

theorem run_scanFrom_append (h : (scanFrom m front).run cs = some (m', rest)) :
    (scanFrom m (front ++ back)).run cs = (scanFrom m' back).run rest := by
  rw [scanFrom, List.foldlM_append]
  exact run_bind_some h

theorem run_scanFrom_append_none (h : (scanFrom m front).run cs = none) :
    (scanFrom m (front ++ back)).run cs = none := by
  rw [scanFrom, List.foldlM_append]
  exact run_bind_none h

/-! ### Parts -/

/-- Whether a part is a number of at most two digits. -/
def Part.isNumber : Part → Bool
  | .month | .day | .hour | .minute | .second => true
  | _ => false

/-- The moment with a number in the place of a part. -/
def Part.put (m : Moment) (n : Nat) : Part → Moment
  | .month => { m with month := n }
  | .day => { m with day := n }
  | .hour => { m with hour := n }
  | .minute => { m with minute := n }
  | .second => { m with second := n }
  | _ => m

/-- Every number is read in the same way, whatever its place. -/
theorem Part.scan_eq_of_isNumber (h : part.isNumber) :
    part.scan m = blanks >>= fun _ => number 1 2 >>= fun n => pure (part.put m n) := by
  cases part <;> first | rfl | cases h

/-- A number of two digits is read. -/
theorem run_numberPart (part : Part) (hpart : part.isNumber) (hn : n < 100) :
    (part.scan m).run (padded 2 n ++ rest) = some (part.put m n, rest) := by
  rw [Part.scan_eq_of_isNumber hpart, run_bind_some run_blanks_padded,
    run_bind_some (run_number (by decide) (by decide) hn)]
  rfl

/-- No number is read where neither white space nor a digit stands. -/
theorem run_numberPart_none (part : Part) (hpart : part.isNumber)
    (hblank : cs.head?.all fun c => !isBlank c) (hdigit : cs.head?.any isDigit = false) :
    (part.scan m).run cs = none := by
  rw [Part.scan_eq_of_isNumber hpart, run_bind_some (run_blanks hblank),
    run_bind_none (run_number_none (by decide) hdigit)]

theorem run_literal (m : Moment) (c : Char) (rest : List Char) :
    ((Part.literal c).scan m).run (c :: rest) = some (m, rest) := by
  rw [Part.scan, run_bind_some (run_char c rest)]
  rfl

theorem run_literal_none {c : Char} (h : cs.head? ≠ some c) :
    ((Part.literal c).scan m).run cs = none := by
  rw [Part.scan, run_bind_none (run_char_of_ne h)]

/-- A year of four digits. -/
theorem run_year (hn : n ≤ 9999) :
    (Part.year.scan m).run (padded 4 n ++ rest) = some ({ m with year := n }, rest) := by
  have hyear : Scan.year.run (padded 4 n ++ rest) =
      (number 1 4 >>= fun n => pure (n : Int)).run (padded 4 n ++ rest) := by
    obtain ⟨c, cs, hpadded, hc⟩ := exists_padded 4 n
    have hminus : c ≠ '-' := by
      rintro rfl
      cases hc
    have hplus : c ≠ '+' := by
      rintro rfl
      cases hc
    rw [hpadded, List.cons_append, Scan.year]
    simp [hminus, hplus]
  have hnumber : (number 1 4).run (padded 4 n ++ rest) = some (n, rest) :=
    run_number (by decide) (by decide) (Nat.lt_succ_of_le hn)
  rw [run_bind_some hnumber] at hyear
  rw [Part.scan, run_bind_some run_blanks_padded, run_bind_some hyear]
  rfl

theorem run_fractionPart {digits : List Char} (hall : digits.all isDigit) (hrest : EndsFraction rest) :
    (Part.fraction.scan m).run (fractionText digits ++ rest) =
      some ({ m with nanosecond := nanosecondsOf digits }, rest) := by
  rw [Part.scan, run_bind_some (run_fraction hall hrest)]
  rfl

/-- White space before the time of day, of which there is one character. -/
theorem run_space (h : rest.head?.all fun c => !isBlank c) :
    (Part.space.scan m).run (' ' :: rest) = some (m, rest) := by
  have hblanks : blanks.run (' ' :: rest) = some ((), rest) := by
    have htrim : trimLeft ([' '] ++ rest) = rest := trimLeft_append rfl h
    rw [List.singleton_append] at htrim
    simp [blanks, htrim]
  rw [Part.scan, run_bind_some hblanks]
  rfl

/-- No white space is as good as any. -/
theorem run_space_none (h : cs.head?.all fun c => !isBlank c) :
    (Part.space.scan m).run cs = some (m, cs) := by
  rw [Part.scan, run_bind_some (run_blanks h)]
  rfl

/-- An offset without anything between hours and minutes. -/
theorem run_offsetPart {sign : Char} {hours minutes : Nat} (hsign : sign ∈ signs)
    (hhours : hours < 100) (hminutes : minutes < 100) :
    (Part.offset.scan m).run (sign :: (padded 2 hours ++ (padded 2 minutes ++ rest))) =
      if minutes < 60 then some ({ m with offset := minutesEast sign hours minutes }, rest)
      else none := by
  have hblank : isBlank sign = false := by
    rcases mem_signs_iff.mp hsign with rfl | rfl | rfl <;> decide
  have hhead : (sign :: (padded 2 hours ++ (padded 2 minutes ++ rest))).head?.all
      fun c => !isBlank c := by
    simp [hblank]
  have hbetween : (modify (·.dropWhile fun c => c == ':' || isBlank c) : Scan Unit).run
      (padded 2 minutes ++ rest) = some ((), padded 2 minutes ++ rest) := by
    obtain ⟨c, cs, hpadded, hc⟩ := exists_padded 2 minutes
    have hcolon : c ≠ ':' := by
      rintro rfl
      cases hc
    rw [hpadded]
    simp [hcolon, isBlank_of_isDigit hc]
  rw [Part.scan, run_bind_some (run_blanks hhead), StateT.run_bind,
    run_offset hsign hhours hminutes hbetween]
  split <;> rfl

/-! ## Texts that end in a digit -/

/-- Whether a text ends in a digit, so that no white space is taken off its end. -/
def EndsInDigit (cs : List Char) : Prop := ∃ c, cs.getLast? = some c ∧ isDigit c

theorem endsInDigit_of_all {digits : List Char} (hall : digits.all isDigit) (hne : digits ≠ []) :
    EndsInDigit digits :=
  ⟨digits.getLast hne, List.getLast?_eq_some_getLast hne,
    List.all_eq_true.mp hall _ (List.getLast_mem hne)⟩

theorem endsInDigit_padded (w n : Nat) : EndsInDigit (padded w n) :=
  endsInDigit_of_all (all_isDigit_padded w n) (padded_ne_nil w n)

theorem EndsInDigit.append (h : EndsInDigit rest) (cs : List Char) : EndsInDigit (cs ++ rest) := by
  obtain ⟨c, hlast, hc⟩ := h
  exact ⟨c, by rw [List.getLast?_append, hlast, Option.some_or], hc⟩

theorem EndsInDigit.cons (h : EndsInDigit rest) (c : Char) : EndsInDigit (c :: rest) :=
  h.append [c]

/-- A fraction ends in a digit, if something before it does. -/
theorem EndsInDigit.fraction {digits : List Char} (h : EndsInDigit cs) (hall : digits.all isDigit) :
    EndsInDigit (cs ++ fractionText digits) := by
  rw [fractionText]
  split
  · rwa [List.append_nil]
  · next hne => exact ((endsInDigit_of_all hall hne).cons '.').append cs

theorem EndsInDigit.not_blank (h : EndsInDigit cs) : cs.getLast?.all fun c => !isBlank c := by
  obtain ⟨c, hlast, hc⟩ := h
  rw [hlast]
  simp [isBlank_of_isDigit hc]

/-! ## Texts behind a date -/

/-- No time of day starts where neither white space nor a digit stands. -/
theorem run_minutePattern_none (hblank : cs.head?.all fun c => !isBlank c)
    (hdigit : cs.head?.any isDigit = false) : (scanFrom m minutePattern).run cs = none :=
  run_scanFrom_cons_none (run_numberPart_none .hour rfl hblank hdigit)

/-- A pattern with another separator reads nothing. -/
theorem whole?_literal_none {c : Char} (h : cs.head? ≠ some c) :
    whole? (scanFrom m (.literal c :: parts)) cs = none :=
  whole?_of_run_none (run_scanFrom_cons_none (run_literal_none h))

/-- What the patterns expect behind a date. -/
def tails : List (List Part) :=
  [.literal 'T' :: secondPattern,
    .space :: secondPattern,
    .literal 'T' :: minutePattern,
    .space :: minutePattern,
    .space :: (secondPattern ++ [.offset]),
    []]

/-- Every pattern starts with a date. -/
theorem patterns_eq : patterns = tails.map (datePattern ++ ·) := rfl

namespace Timestamp

variable (t : Timestamp)

/-- The first second of the minute. -/
def startOfMinute : Timestamp :=
  { t with second := 0, fraction := [], second_le := Nat.zero_le 60, fraction_digits := rfl }

/-- The first second of the day. -/
def startOfDay : Timestamp :=
  { t.startOfMinute with
    hour := 0, minute := 0, hour_lt := Nat.zero_lt_succ 23, minute_lt := Nat.zero_lt_succ 59 }

/-- Two zeros. -/
theorem padded_two_zero : padded 2 0 = ['0', '0'] := by decide +kernel

theorem time_startOfMinute : t.startOfMinute.time = t.clock ++ [':', '0', '0'] := by
  show t.clock ++ ':' :: (padded 2 0 ++ []) = _
  rw [padded_two_zero, List.append_nil]

theorem time_startOfDay : t.startOfDay.time = ['0', '0', ':', '0', '0', ':', '0', '0'] := by
  show (padded 2 0 ++ ':' :: padded 2 0) ++ ':' :: (padded 2 0 ++ []) = _
  rw [padded_two_zero]
  rfl

/-- The moment that is known behind the date: midnight of universal time. -/
def midnight : Moment := t.startOfDay.moment 0

theorem run_datePattern (rest : List Char) :
    (scanFrom blank datePattern).run (t.date ++ rest) = some (t.midnight, rest) := by
  have hmonth : t.month < 100 := by have := t.month_mem; omega
  have hday : t.day < 100 := by have := t.day_le; omega
  rw [date, List.append_assoc, List.cons_append, List.append_assoc, List.cons_append, datePattern,
    run_scanFrom_cons (run_year t.year_le), run_scanFrom_cons (run_literal _ _ _),
    run_scanFrom_cons (run_numberPart .month rfl hmonth), run_scanFrom_cons (run_literal _ _ _),
    run_scanFrom_cons (run_numberPart .day rfl hday)]
  rfl

theorem run_minutePattern (m : Moment) (rest : List Char) :
    (scanFrom m minutePattern).run (t.clock ++ rest) =
      some ({ m with hour := t.hour, minute := t.minute }, rest) := by
  have hhour : t.hour < 100 := by have := t.hour_lt; omega
  have hminute : t.minute < 100 := by have := t.minute_lt; omega
  rw [clock, List.append_assoc, List.cons_append, minutePattern,
    run_scanFrom_cons (run_numberPart .hour rfl hhour), run_scanFrom_cons (run_literal _ _ _),
    run_scanFrom_cons (run_numberPart .minute rfl hminute)]
  rfl

theorem run_secondPattern (m : Moment) {rest : List Char} (hrest : EndsFraction rest) :
    (scanFrom m secondPattern).run (t.time ++ rest) =
      some ({ m with hour := t.hour, minute := t.minute, second := t.second
                     nanosecond := nanosecondsOf t.fraction }, rest) := by
  have hsecond : t.second < 100 := by have := t.second_le; omega
  rw [time, List.append_assoc, List.cons_append, List.append_assoc, secondPattern,
    run_scanFrom_append (t.run_minutePattern m _), run_scanFrom_cons (run_literal _ _ _),
    run_scanFrom_cons (run_numberPart .second rfl hsecond),
    run_scanFrom_cons (run_fractionPart t.fraction_digits hrest)]
  rfl

/-- Without seconds no pattern with seconds is read. -/
theorem run_secondPattern_clock (m : Moment) : (scanFrom m secondPattern).run t.clock = none := by
  rw [← List.append_nil t.clock, secondPattern, run_scanFrom_append (t.run_minutePattern m []),
    run_scanFrom_cons_none (run_literal_none (by simp))]

theorem endsInDigit_date : EndsInDigit t.date :=
  ((((endsInDigit_padded 2 t.day).cons '-').append _).cons '-').append _

theorem endsInDigit_clock : EndsInDigit t.clock := ((endsInDigit_padded 2 t.minute).cons ':').append _

theorem endsInDigit_time : EndsInDigit t.time :=
  (((endsInDigit_padded 2 t.second).fraction t.fraction_digits).cons ':').append _

/-- A year, a month and a day start a text with a digit. -/
theorem head?_date (rest : List Char) : ∃ c, (t.date ++ rest).head? = some c ∧ isDigit c := by
  rw [date, List.append_assoc]
  exact head?_padded _ _ _

/-! ## Reading a text by what stands behind its date -/

/-- A text is read by what stands behind its date, first like an Internet timestamp and then by the
patterns in order. -/
theorem lenientChars?_date {before after : List Char} (hbefore : before.all isBlank)
    (hafter : after.all isBlank) (hlast : EndsInDigit (t.date ++ cs)) :
    lenientChars? (before ++ (t.date ++ cs) ++ after) =
      (whole? t.afterDate cs <|>
        tails.findSome? fun parts => whole? (scanFrom t.midnight parts) cs) := by
  obtain ⟨c, hhead, hc⟩ := t.head?_date cs
  have hfirst : (t.date ++ cs).head?.all fun c => !isBlank c := by
    rw [hhead]
    simp [isBlank_of_isDigit hc]
  have htrim : trimChars (before ++ (t.date ++ cs) ++ after) = t.date ++ cs :=
    trimChars_append hbefore hafter hfirst hlast.not_blank
  have hinternet : whole? internet (t.date ++ cs) = whole? t.afterDate cs :=
    whole?_congr (t.run_internet_date cs)
  have hpattern (parts : List Part) : whole? (scanParts (datePattern ++ parts)) (t.date ++ cs) =
      whole? (scanFrom t.midnight parts) cs :=
    whole?_congr (run_scanFrom_append (t.run_datePattern cs))
  rw [lenientChars?, htrim, hinternet, patterns_eq, List.findSome?_map]
  simp only [Function.comp_def, hpattern]

/-- White space before a time of day is skipped. -/
theorem run_space_clock (m : Moment) (parts : List Part) (rest : List Char) :
    (scanFrom m (.space :: parts)).run (' ' :: (t.clock ++ rest)) =
      (scanFrom m parts).run (t.clock ++ rest) := by
  apply run_scanFrom_cons
  obtain ⟨c, hhead, hc⟩ := head?_padded 2 t.hour (':' :: padded 2 t.minute ++ rest)
  apply run_space
  rw [clock, List.append_assoc, hhead]
  simp [isBlank_of_isDigit hc]

theorem run_space_time (m : Moment) (parts : List Part) (rest : List Char) :
    (scanFrom m (.space :: parts)).run (' ' :: (t.time ++ rest)) =
      (scanFrom m parts).run (t.time ++ rest) := by
  rw [time, List.append_assoc, run_space_clock]

/-- A time of day behind white space is read by every pattern with seconds. -/
theorem run_space_seconds (hrest : EndsFraction rest) (parts : List Part) :
    (scanFrom t.midnight (.space :: (secondPattern ++ parts))).run (' ' :: (t.time ++ rest)) =
      (scanFrom (t.moment 0) parts).run rest := by
  rw [run_space_time, run_scanFrom_append (t.run_secondPattern _ hrest)]
  rfl

/-- The offset is the last part of its pattern. -/
theorem whole?_offsetPart {sign : Char} {hours minutes : Nat} (hsign : sign ∈ signs)
    (hhours : hours < 100) (hminutes : minutes < 100) :
    whole? (scanFrom (t.moment 0) [.offset]) (sign :: (padded 2 hours ++ padded 2 minutes)) =
      if minutes < 60 then Moment.of? (t.moment (minutesEast sign hours minutes)) else none := by
  have hpart : (Part.offset.scan (t.moment 0)).run (sign :: (padded 2 hours ++ padded 2 minutes)) =
      if minutes < 60 then some (t.moment (minutesEast sign hours minutes), []) else none := by
    rw [← List.append_nil (padded 2 minutes)]
    exact run_offsetPart hsign hhours hminutes
  by_cases hlt : minutes < 60
  · rw [if_pos hlt] at hpart ⊢
    apply whole?_of_run
    rw [run_scanFrom_cons hpart, run_scanFrom_nil]
  · rw [if_neg hlt] at hpart ⊢
    exact whole?_of_run_none (run_scanFrom_cons_none hpart)

/-! ## The formats -/

variable {before after : List Char} {separator : Char}

/-- Without an offset no Internet timestamp is read. -/
theorem whole?_afterDate_time (hseparator : separator ∈ ['T', 't', ' ']) :
    whole? t.afterDate (separator :: t.time) = none := by
  apply whole?_of_run_none
  rw [← List.append_nil t.time, t.run_afterDate_time hseparator endsFraction_nil,
    run_afterTime_nil]

theorem whole?_afterDate_clock (hseparator : separator ∈ ['T', 't', ' ']) :
    whole? t.afterDate (separator :: t.clock) = none :=
  whole?_of_run_none (t.run_afterDate_clock hseparator)

/-- A time of day at an offset without a colon is no Internet timestamp. -/
theorem whole?_afterDate_compact {sign : Char} {hours : Nat} (hsign : sign ∈ signs)
    (hhours : hours < 100) (minutes : Nat) :
    whole? t.afterDate (' ' :: (t.time ++ sign :: (padded 2 hours ++ padded 2 minutes))) = none := by
  have hcolon : (char ':').run (padded 2 minutes) = none := by
    obtain ⟨c, cs, hpadded, hc⟩ := exists_padded 2 minutes
    apply run_char_of_ne
    rw [hpadded]
    rintro ⟨⟩
    cases hc
  apply whole?_of_run_none
  rw [t.run_afterDate_time (by decide) (endsFraction_sign hsign _), run_afterTime_signed t hsign,
    run_offset_none hsign hhours hcolon]
  rfl

/-- A time of day behind white space. -/
theorem lenientChars?_spaced (hbefore : before.all isBlank) (hafter : after.all isBlank) :
    lenientChars? (before ++ (t.date ++ ' ' :: t.time) ++ after) = some (t.moment 0) := by
  have hinternet : whole? t.afterDate (' ' :: t.time) = none := t.whole?_afterDate_time (by decide)
  have hliteral (parts : List Part) :
      whole? (scanFrom t.midnight (.literal 'T' :: parts)) (' ' :: t.time) = none :=
    whole?_literal_none (by simp)
  have hseconds : whole? (scanFrom t.midnight (.space :: secondPattern)) (' ' :: t.time) =
      some (t.moment 0) := by
    have hrun := t.run_space_seconds endsFraction_nil []
    rw [List.append_nil, List.append_nil] at hrun
    rw [← t.of?_moment (by decide)]
    exact whole?_of_run hrun
  have hlast : EndsInDigit (t.date ++ ' ' :: t.time) := (t.endsInDigit_time.cons ' ').append _
  rw [t.lenientChars?_date hbefore hafter hlast, hinternet]
  simp only [tails, List.findSome?_cons, hliteral, hseconds, Option.orElse_eq_orElse,
    Option.orElse_eq_or, Option.none_or]

/-- A time of day behind a `T`. -/
theorem lenientChars?_joined (hbefore : before.all isBlank) (hafter : after.all isBlank) :
    lenientChars? (before ++ (t.date ++ 'T' :: t.time) ++ after) = some (t.moment 0) := by
  have hinternet : whole? t.afterDate ('T' :: t.time) = none := t.whole?_afterDate_time (by decide)
  have hseconds : whole? (scanFrom t.midnight (.literal 'T' :: secondPattern)) ('T' :: t.time) =
      some (t.moment 0) := by
    rw [← t.of?_moment (by decide)]
    apply whole?_of_run
    rw [← List.append_nil t.time, run_scanFrom_cons (run_literal _ _ _),
      t.run_secondPattern _ endsFraction_nil]
    rfl
  have hlast : EndsInDigit (t.date ++ 'T' :: t.time) := (t.endsInDigit_time.cons 'T').append _
  rw [t.lenientChars?_date hbefore hafter hlast, hinternet]
  simp only [tails, List.findSome?_cons, hseconds, Option.orElse_eq_orElse, Option.orElse_eq_or,
    Option.none_or]

/-- A time of day without seconds behind white space. -/
theorem lenientChars?_spacedClock (hbefore : before.all isBlank) (hafter : after.all isBlank) :
    lenientChars? (before ++ (t.date ++ ' ' :: t.clock) ++ after) =
      some (t.startOfMinute.moment 0) := by
  have hinternet : whole? t.afterDate (' ' :: t.clock) = none :=
    t.whole?_afterDate_clock (by decide)
  have hliteral (parts : List Part) :
      whole? (scanFrom t.midnight (.literal 'T' :: parts)) (' ' :: t.clock) = none :=
    whole?_literal_none (by simp)
  have hspace (parts : List Part) : (scanFrom t.midnight (.space :: parts)).run (' ' :: t.clock) =
      (scanFrom t.midnight parts).run t.clock := by
    rw [← List.append_nil t.clock, run_space_clock]
  have hseconds : whole? (scanFrom t.midnight (.space :: secondPattern)) (' ' :: t.clock) = none := by
    apply whole?_of_run_none
    rw [hspace, run_secondPattern_clock]
  have hminutes : whole? (scanFrom t.midnight (.space :: minutePattern)) (' ' :: t.clock) =
      some (t.startOfMinute.moment 0) := by
    rw [← t.startOfMinute.of?_moment (by decide)]
    apply whole?_of_run
    rw [hspace, ← List.append_nil t.clock, run_minutePattern]
    rfl
  have hlast : EndsInDigit (t.date ++ ' ' :: t.clock) := (t.endsInDigit_clock.cons ' ').append _
  rw [t.lenientChars?_date hbefore hafter hlast, hinternet]
  simp only [tails, List.findSome?_cons, hliteral, hseconds, hminutes, Option.orElse_eq_orElse,
    Option.orElse_eq_or, Option.none_or]

/-- A time of day without seconds behind a `T`. -/
theorem lenientChars?_joinedClock (hbefore : before.all isBlank) (hafter : after.all isBlank) :
    lenientChars? (before ++ (t.date ++ 'T' :: t.clock) ++ after) =
      some (t.startOfMinute.moment 0) := by
  have hinternet : whole? t.afterDate ('T' :: t.clock) = none :=
    t.whole?_afterDate_clock (by decide)
  have hseconds : whole? (scanFrom t.midnight (.literal 'T' :: secondPattern)) ('T' :: t.clock) =
      none := by
    apply whole?_of_run_none
    rw [run_scanFrom_cons (run_literal _ _ _), run_secondPattern_clock]
  -- White space may be missing, but no time of day starts with the `T`.
  have hspace : whole? (scanFrom t.midnight (.space :: secondPattern)) ('T' :: t.clock) = none := by
    apply whole?_of_run_none
    rw [run_scanFrom_cons (run_space_none rfl), secondPattern,
      run_scanFrom_append_none (run_minutePattern_none rfl rfl)]
  have hminutes : whole? (scanFrom t.midnight (.literal 'T' :: minutePattern)) ('T' :: t.clock) =
      some (t.startOfMinute.moment 0) := by
    rw [← t.startOfMinute.of?_moment (by decide)]
    apply whole?_of_run
    rw [run_scanFrom_cons (run_literal _ _ _), ← List.append_nil t.clock, run_minutePattern]
    rfl
  have hlast : EndsInDigit (t.date ++ 'T' :: t.clock) := (t.endsInDigit_clock.cons 'T').append _
  rw [t.lenientChars?_date hbefore hafter hlast, hinternet]
  simp only [tails, List.findSome?_cons, hseconds, hspace, hminutes, Option.orElse_eq_orElse,
    Option.orElse_eq_or, Option.none_or]

/-- A date without a time of day. -/
theorem lenientChars?_dateOnly (hbefore : before.all isBlank) (hafter : after.all isBlank) :
    lenientChars? (before ++ t.date ++ after) = some (t.startOfDay.moment 0) := by
  have hinternet : whole? t.afterDate [] = none := whole?_of_run_none t.run_afterDate_nil
  have hliteral (parts : List Part) :
      whole? (scanFrom t.midnight (.literal 'T' :: parts)) [] = none :=
    whole?_literal_none (by simp)
  have hspace (parts : List Part) :
      whole? (scanFrom t.midnight (.space :: (minutePattern ++ parts))) [] = none := by
    apply whole?_of_run_none
    rw [run_scanFrom_cons (run_space_none rfl),
      run_scanFrom_append_none (run_minutePattern_none rfl rfl)]
  have hnothing : whole? (scanFrom t.midnight []) [] = some t.midnight := by
    rw [midnight, ← t.startOfDay.of?_moment (by decide)]
    exact whole?_of_run rfl
  have hlast : EndsInDigit (t.date ++ []) := by
    rw [List.append_nil]
    exact t.endsInDigit_date
  have hminutes := hspace []
  rw [List.append_nil] at hminutes
  have hread := t.lenientChars?_date hbefore hafter hlast
  rw [List.append_nil, hinternet] at hread
  rw [hread]
  simp only [tails, secondPattern, List.append_assoc, List.findSome?_cons, hliteral, hspace,
    hminutes, hnothing, Option.orElse_eq_orElse, Option.orElse_eq_or, Option.none_or]
  rfl

/-- A time of day at an offset without a colon. -/
theorem lenientChars?_compact {sign : Char} {hours minutes : Nat} (hbefore : before.all isBlank)
    (hafter : after.all isBlank) (hsign : sign ∈ signs) (hhours : hours < 100)
    (hminutes : minutes < 100) :
    lenientChars? (before ++ (t.date ++
        ' ' :: (t.time ++ sign :: (padded 2 hours ++ padded 2 minutes))) ++ after) =
      if minutes < 60 then Moment.of? (t.moment (minutesEast sign hours minutes)) else none := by
  have hends := endsFraction_sign hsign (padded 2 hours ++ padded 2 minutes)
  have hinternet := t.whole?_afterDate_compact hsign hhours minutes
  generalize htext : sign :: (padded 2 hours ++ padded 2 minutes) = text at hends hinternet ⊢
  have hliteral (parts : List Part) :
      whole? (scanFrom t.midnight (.literal 'T' :: parts)) (' ' :: (t.time ++ text)) = none :=
    whole?_literal_none (by simp)
  -- The patterns without an offset leave the sign, or the colon before the seconds.
  have hseconds : whole? (scanFrom t.midnight (.space :: secondPattern)) (' ' :: (t.time ++ text)) =
      none := by
    have hrun := t.run_space_seconds hends []
    rw [List.append_nil, run_scanFrom_nil, ← htext] at hrun
    rw [← htext]
    exact whole?_of_run_cons hrun
  have hminutesPattern : whole? (scanFrom t.midnight (.space :: minutePattern))
      (' ' :: (t.time ++ text)) = none := by
    have hrun : (scanFrom t.midnight (.space :: minutePattern)).run (' ' :: (t.time ++ text)) =
        some (t.startOfMinute.moment 0,
          ':' :: (padded 2 t.second ++ fractionText t.fraction) ++ text) := by
      rw [run_space_time, time, List.append_assoc, run_minutePattern]
      rfl
    exact whole?_of_run_cons hrun
  have hoffset : whole? (scanFrom t.midnight (.space :: (secondPattern ++ [.offset])))
      (' ' :: (t.time ++ text)) =
        if minutes < 60 then Moment.of? (t.moment (minutesEast sign hours minutes)) else none := by
    rw [whole?_congr (t.run_space_seconds hends [.offset]), ← htext]
    exact t.whole?_offsetPart hsign hhours hminutes
  have hlast : EndsInDigit (t.date ++ ' ' :: (t.time ++ text)) := by
    rw [← htext]
    exact (((((endsInDigit_padded 2 minutes).append _).cons sign).append _).cons ' ').append _
  have hdate : whole? (scanFrom t.midnight []) (' ' :: (t.time ++ text)) = none :=
    whole?_of_run_cons (run_scanFrom_nil _ _)
  rw [t.lenientChars?_date hbefore hafter hlast, hinternet]
  simp only [tails, List.findSome?_cons, List.findSome?_nil, hliteral, hseconds, hminutesPattern,
    hoffset, hdate, Option.orElse_eq_orElse, Option.orElse_eq_or, Option.none_or]
  generalize (if minutes < 60 then _ else _ : Option Moment) = result
  cases result <;> rfl

/-- An offset that can be written names a moment if it is one of hours and minutes of a day. -/
theorem of?_moment_minutesEast (sign : Char) (hours minutes : Nat) :
    (if minutes < 60 then Moment.of? (t.moment (minutesEast sign hours minutes)) else none) =
      if hours < 24 ∧ minutes < 60 then some (t.moment (minutesEast sign hours minutes))
      else none := by
  have hnatAbs : (minutesEast sign hours minutes).natAbs = hours * 60 + minutes := by
    rw [minutesEast]
    split
    · exact Int.natAbs_natCast _
    · rw [Int.natAbs_neg, Int.natAbs_natCast]
  by_cases hminutes : minutes < 60
  · rw [if_pos hminutes]
    by_cases hhours : hours < 24
    · rw [if_pos ⟨hhours, hminutes⟩, of?_moment t (by omega)]
    · rw [if_neg (fun h => hhours h.1), of?_moment_none t (by omega)]
  · rw [if_neg hminutes, if_neg (fun h => hminutes h.2)]

end Timestamp

/-! ## Agreement -/

/-- Whether a text, with any white space around it, is read as an Internet timestamp is, and what
both are read as. -/
def Agree (text timestamp : List Char) (result : Option Moment) : Prop :=
  internet? (String.ofList timestamp) = result ∧
    ∀ before after : List Char, before.all isBlank → after.all isBlank →
      lenient? (String.ofList (before ++ text ++ after)) = result

theorem agree_of_chars {text timestamp : List Char} {result : Option Moment}
    (hinternet : whole? internet timestamp = result)
    (hlenient : ∀ {before after : List Char}, before.all isBlank → after.all isBlank →
      lenientChars? (before ++ text ++ after) = result) : Agree text timestamp result := by
  refine ⟨?_, fun before after hbefore hafter => ?_⟩
  · rw [internet?, String.toList_ofList, hinternet]
  · rw [lenient?, String.toList_ofList, hlenient hbefore hafter]

/-- The text of a moment that was read names the same time at the same offset, without what is below
the millisecond, and is the text of that moment again. And whatever a database may send for a date
and a time of day is read as the Internet timestamp that says the same. -/
theorem dates_agree :
    (∀ (s : String) (d : Moment), internet? s = some d →
      internet? d.text = some d.toMilliseconds ∧ d.toMilliseconds.text = d.text) ∧
    ∀ t : Timestamp,
      Agree (t.date ++ ' ' :: t.time) (t.date ++ 'T' :: (t.time ++ ['Z'])) (some (t.moment 0)) ∧
      Agree (t.date ++ 'T' :: t.time) (t.date ++ 'T' :: (t.time ++ ['Z'])) (some (t.moment 0)) ∧
      Agree (t.date ++ ' ' :: t.clock) (t.date ++ 'T' :: (t.clock ++ [':', '0', '0', 'Z']))
        (some (t.startOfMinute.moment 0)) ∧
      Agree (t.date ++ 'T' :: t.clock) (t.date ++ 'T' :: (t.clock ++ [':', '0', '0', 'Z']))
        (some (t.startOfMinute.moment 0)) ∧
      Agree t.date (t.date ++ 'T' :: ['0', '0', ':', '0', '0', ':', '0', '0', 'Z'])
        (some (t.startOfDay.moment 0)) ∧
      ∀ sign ∈ signs, ∀ hours < 100, ∀ minutes < 100,
        Agree (t.date ++ ' ' :: (t.time ++ sign :: (padded 2 hours ++ padded 2 minutes)))
          (t.date ++ 'T' :: (t.time ++ sign :: (padded 2 hours ++ ':' :: padded 2 minutes)))
          (if hours < 24 ∧ minutes < 60 then some (t.moment (minutesEast sign hours minutes))
          else none) := by
  refine ⟨fun s d h => ⟨internet?_text h, ?_⟩, fun t => ?_⟩
  · rw [Moment.text, chars_toMilliseconds, Moment.text]
  have hminute : whole? internet (t.date ++ 'T' :: (t.clock ++ [':', '0', '0', 'Z'])) =
      some (t.startOfMinute.moment 0) := by
    have h := t.startOfMinute.whole?_internet_universal
    rwa [Timestamp.time_startOfMinute, List.append_assoc] at h
  have hday : whole? internet
      (t.date ++ 'T' :: ['0', '0', ':', '0', '0', ':', '0', '0', 'Z']) =
        some (t.startOfDay.moment 0) := by
    have h := t.startOfDay.whole?_internet_universal
    rwa [Timestamp.time_startOfDay] at h
  refine ⟨agree_of_chars t.whole?_internet_universal t.lenientChars?_spaced,
    agree_of_chars t.whole?_internet_universal t.lenientChars?_joined,
    agree_of_chars hminute t.lenientChars?_spacedClock,
    agree_of_chars hminute t.lenientChars?_joinedClock,
    agree_of_chars hday t.lenientChars?_dateOnly, ?_⟩
  intro sign hsign hours hhours minutes hminutes
  rw [← t.of?_moment_minutesEast]
  exact agree_of_chars (t.whole?_internet_signed hsign hhours hminutes)
    fun hbefore hafter => t.lenientChars?_compact hbefore hafter hsign hhours hminutes

/-- A leap second, at the end of 2016. -/
def leapSecond : Timestamp where
  year := 2016
  month := 12
  day := 31
  hour := 23
  minute := 59
  second := 60
  fraction := ['2', '5']
  year_le := by decide
  month_mem := by decide
  day_mem := by decide
  hour_lt := by decide
  minute_lt := by decide
  second_le := by decide
  fraction_digits := rfl

theorem dates_agree_leapSecond :
    internet? "2016-12-31t23:59:60.2500009-08:00" = some ⟨2016, 12, 31, 23, 59, 60, 250000900, -480⟩ ∧
    internet? "2016-12-31T23:59:60.250-08:00" = some ⟨2016, 12, 31, 23, 59, 60, 250000000, -480⟩ ∧
    lenient? "\t2016-12-31 23:59:60.25 " = some (leapSecond.moment 0) ∧
    lenient? "2016-12-31 23:59:60.25-0800" = internet? "2016-12-31T23:59:60.25-08:00" := by
  have hread : internet? "2016-12-31t23:59:60.2500009-08:00" =
      some ⟨2016, 12, 31, 23, 59, 60, 250000900, -480⟩ := by decide +kernel
  have htext : Moment.text ⟨2016, 12, 31, 23, 59, 60, 250000900, -480⟩ =
      "2016-12-31T23:59:60.250-08:00" := by decide +kernel
  have hmilliseconds : Moment.toMilliseconds ⟨2016, 12, 31, 23, 59, 60, 250000900, -480⟩ =
      ⟨2016, 12, 31, 23, 59, 60, 250000000, -480⟩ := by decide +kernel
  have hback := (dates_agree.1 _ _ hread).1
  rw [htext, hmilliseconds] at hback
  obtain ⟨⟨-, hspaced⟩, -, -, -, -, hoffset⟩ := dates_agree.2 leapSecond
  have hblank := hspaced ['\t'] [' '] (by decide) (by decide)
  obtain ⟨hinternet, hlenient⟩ := hoffset '-' (by decide) 8 (by decide) 0 (by decide)
  have hcompact := (hlenient [] [] (by decide) (by decide)).trans hinternet.symm
  refine ⟨hread, hback, ?_, ?_⟩
  · have hchars : String.ofList (['\t'] ++ (leapSecond.date ++ ' ' :: leapSecond.time) ++ [' ']) =
        "\t2016-12-31 23:59:60.25 " := by decide +kernel
    rw [hchars] at hblank
    exact hblank
  · have hchars : String.ofList ([] ++ (leapSecond.date ++ ' ' ::
        (leapSecond.time ++ '-' :: (padded 2 8 ++ padded 2 0))) ++ []) =
          "2016-12-31 23:59:60.25-0800" := by decide +kernel
    have hcolon : String.ofList (leapSecond.date ++ 'T' ::
        (leapSecond.time ++ '-' :: (padded 2 8 ++ ':' :: padded 2 0))) =
          "2016-12-31T23:59:60.25-08:00" := by decide +kernel
    rw [hchars, hcolon] at hcompact
    exact hcompact

end RelationalQuery.Calendar
