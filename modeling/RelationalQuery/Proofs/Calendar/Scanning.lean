import RelationalQuery.Calendar.Reader
import RelationalQuery.Proofs.Text.Numeral

/-!
# Reading parts of moments

What each of the small readers takes from the front of a text that was written for it, and that it
leaves the rest. A padded number has as many digits as its width says, so a reader of so many digits
stops where the number does, whatever stands behind it.
-/

namespace RelationalQuery.Calendar

open Text
open Moment (padded)

variable {c : Char} {cs rest : List Char} {n w least most : Nat}

/-! ## Padded numbers -/

theorem all_isDigit_padded (w n : Nat) : (padded w n).all isDigit := by
  rw [padded, List.all_append, all_isDigit_toString, Bool.and_true]
  exact List.all_replicate.trans (by simp; right; decide)

/-- A number fills its width where it has no more digits. -/
theorem length_padded (hw : 0 < w) (hn : n < 10 ^ w) : (padded w n).length = w := by
  have hlength : (toString n).toList.length ≤ w := Nat.repr_length n w hw hn
  rw [padded, List.length_append, List.length_replicate]
  omega

theorem numeral_padded (w n : Nat) : numeral (padded w n) = n := by
  rw [padded, numeral_append, numeral_replicate_zero, numeral_toString, Nat.zero_mul, Nat.zero_add]

theorem padded_ne_nil (w n : Nat) : padded w n ≠ [] := by
  rw [padded]
  exact List.append_ne_nil_of_right_ne_nil _ (toString_ne_nil n)

/-- A padded number starts with a digit. -/
theorem exists_padded (w n : Nat) : ∃ c cs, padded w n = c :: cs ∧ isDigit c := by
  cases h : padded w n with
  | nil => exact absurd h (padded_ne_nil w n)
  | cons c cs =>
    have hall := all_isDigit_padded w n
    rw [h, List.all_cons, Bool.and_eq_true] at hall
    exact ⟨c, cs, rfl, hall.1⟩

/-! ## Fractions and offsets -/

/-- The nanoseconds that the digits behind a point stand for: the first nine of them, filled up with
zeros. -/
def nanosecondsOf (digits : List Char) : Nat := numeral ((digits ++ List.replicate 9 '0').take 9)

/-- A fraction of a second: its digits behind a point, or nothing. -/
def fractionText (digits : List Char) : List Char := if digits = [] then [] else '.' :: digits

/-- Whether a text may stand behind a fraction of a second, so that the fraction ends there. -/
def EndsFraction (rest : List Char) : Prop := rest.head?.any (fun c => isDigit c || c == '.') = false

theorem endsFraction_nil : EndsFraction [] := rfl

/-- Minutes to the east, by the sign in front of an offset. -/
def minutesEast (sign : Char) (hours minutes : Nat) : Int :=
  if sign = '+' then (hours * 60 + minutes : Nat) else -((hours * 60 + minutes : Nat) : Int)

theorem nanosecondsOf_lt {digits : List Char} (h : digits.all isDigit) :
    nanosecondsOf digits < 10 ^ 9 := by
  have hall : ((digits ++ List.replicate 9 '0').take 9).all isDigit := by
    rw [List.all_eq_true] at h ⊢
    intro c hc
    rcases List.mem_append.mp (List.mem_of_mem_take hc) with hmem | hmem
    · exact h c hmem
    · rw [List.eq_of_mem_replicate hmem]
      rfl
  have hlt := numeral_lt hall
  rwa [List.length_take, List.length_append, List.length_replicate, Nat.min_eq_left (by omega)] at hlt

namespace Scan

/-! ## Sequences -/

/-- A sequence goes on behind what its first reader has taken. -/
theorem run_bind_some {α β : Type} {scan : Scan α} {next : α → Scan β} {result : α}
    (h : scan.run cs = some (result, rest)) : (scan >>= next).run cs = (next result).run rest := by
  rw [StateT.run_bind, h]
  rfl

/-- A sequence fails where its first reader does. -/
theorem run_bind_none {α β : Type} {scan : Scan α} {next : α → Scan β}
    (h : scan.run cs = none) : (scan >>= next).run cs = none := by
  rw [StateT.run_bind, h]
  rfl

/-! ## Single characters -/

theorem run_char (c : Char) (rest : List Char) : (char c).run (c :: rest) = some ((), rest) := by
  simp [char]

theorem run_char_of_ne (h : cs.head? ≠ some c) : (char c).run cs = none := by
  cases cs with
  | nil => rfl
  | cons d rest =>
    have hd : d ≠ c := by simpa using h
    simp [char, hd]

theorem run_oneOf {cs : List Char} (h : c ∈ cs) : (oneOf cs).run (c :: rest) = some (c, rest) := by
  simp [oneOf, h]

/-! ## Numbers -/

/-- No digits are taken where none stands. -/
theorem takeWhile_isDigit_eq_nil (h : cs.head?.any isDigit = false) : cs.takeWhile isDigit = [] := by
  cases cs with
  | nil => rfl
  | cons c rest =>
    have hc : isDigit c = false := by simpa using h
    rw [List.takeWhile_cons, hc]
    rfl

/-- Digits are taken in one piece, unless these are too few. -/
theorem run_digits_bounded (least n : Nat) (cs : List Char) :
    (Scan.digits least (some n)).run cs =
      if ((cs.takeWhile isDigit).take n).length < least then none
      else some ((cs.takeWhile isDigit).take n,
        cs.drop ((cs.takeWhile isDigit).take n).length) := by
  simp only [Scan.digits, StateT.run_bind, StateT.run_get, pure_bind]
  split <;> rfl

/-- As many digits are taken as there are, if these suffice and are not too many. -/
theorem run_digits {digits : List Char} (hall : digits.all isDigit) (hleast : least ≤ digits.length) :
    (Scan.digits least (some digits.length)).run (digits ++ rest) = some (digits, rest) := by
  have htake : ((digits ++ rest).takeWhile isDigit).take digits.length = digits := by
    rw [List.takeWhile_append_of_pos (List.all_eq_true.mp hall), List.take_left']
    rfl
  rw [run_digits_bounded, htake, if_neg (Nat.not_lt.mpr hleast), List.drop_left']
  rfl

/-- Without a bound all digits are taken. -/
theorem run_digits_none {digits : List Char} (hall : digits.all isDigit)
    (hleast : least ≤ digits.length) (hrest : rest.head?.any isDigit = false) :
    (Scan.digits least none).run (digits ++ rest) = some (digits, rest) := by
  have htake : (digits ++ rest).takeWhile isDigit = digits := by
    rw [List.takeWhile_append_of_pos (List.all_eq_true.mp hall), takeWhile_isDigit_eq_nil hrest,
      List.append_nil]
  simp [Scan.digits, htake, Nat.not_lt.mpr hleast]

/-- A padded number is read by its width. -/
theorem run_number (hw : 0 < w) (hleast : least ≤ w) (hn : n < 10 ^ w) :
    (number least w).run (padded w n ++ rest) = some (n, rest) := by
  have hlength := length_padded hw hn
  have hdigits : (Scan.digits least (some (padded w n).length)).run (padded w n ++ rest) = _ :=
    run_digits (all_isDigit_padded w n) (by rwa [hlength])
  rw [hlength] at hdigits
  simp [number, hdigits, numeral_padded]

theorem run_twoDigits (hn : n < 100) : (number 2 2).run (padded 2 n ++ rest) = some (n, rest) :=
  run_number (by decide) (by decide) hn

/-- No number is read where no digit stands. -/
theorem run_number_none (hleast : 0 < least) (h : cs.head?.any isDigit = false) :
    (number least most).run cs = none := by
  simp [number, Scan.digits, takeWhile_isDigit_eq_nil h, hleast]

/-! ## White space -/

/-- Nothing is skipped where no white space stands. -/
theorem run_blanks (h : cs.head?.all fun c => !isBlank c) : blanks.run cs = some ((), cs) := by
  have htrim : trimLeft ([] ++ cs) = cs := trimLeft_append rfl h
  rw [List.nil_append] at htrim
  simp [blanks, htrim]

/-- A padded number starts with a digit, whatever stands behind it. -/
theorem head?_padded (w n : Nat) (rest : List Char) :
    ∃ c, (padded w n ++ rest).head? = some c ∧ isDigit c := by
  obtain ⟨c, cs, hpadded, hc⟩ := exists_padded w n
  exact ⟨c, by rw [hpadded, List.cons_append, List.head?_cons], hc⟩

theorem run_blanks_padded : blanks.run (padded w n ++ rest) = some ((), padded w n ++ rest) := by
  obtain ⟨c, hhead, hc⟩ := head?_padded w n rest
  apply run_blanks
  rw [hhead]
  simp [isBlank_of_isDigit hc]

/-! ## Fractions -/

theorem run_nanoseconds {digits : List Char} (hall : digits.all isDigit) (hne : digits ≠ [])
    (hrest : rest.head?.any isDigit = false) :
    nanoseconds.run (digits ++ rest) = some (nanosecondsOf digits, rest) := by
  have hlength : 1 ≤ digits.length := List.length_pos_iff.mpr hne
  have hvalue : numeral (digits.take 9) * Nat.pow 10 (9 - (digits.take 9).length) =
      nanosecondsOf digits := by
    rw [nanosecondsOf, List.take_append, List.take_replicate, numeral_append,
      numeral_replicate_zero, List.length_replicate, List.length_take, Nat.add_zero]
    have hpow : 9 - min 9 digits.length = min (9 - digits.length) 9 := by omega
    rw [hpow]
    rfl
  rw [nanoseconds, StateT.run_bind, run_digits_none hall hlength hrest]
  show some (numeral (digits.take 9) * Nat.pow 10 (9 - (digits.take 9).length), rest) = _
  rw [hvalue]

theorem run_fraction {digits : List Char} (hall : digits.all isDigit) (hrest : EndsFraction rest) :
    fraction.run (fractionText digits ++ rest) = some (nanosecondsOf digits, rest) := by
  rw [fractionText]
  split
  · next hnil =>
    subst hnil
    cases rest with
    | nil => rfl
    | cons c rest =>
      have hc : c ≠ '.' := by
        rintro rfl
        simp [EndsFraction] at hrest
      have hzero : nanosecondsOf [] = 0 := rfl
      simp [fraction, hc, hzero]
  · next hne =>
    have hnext : rest.head?.any isDigit = false := by
      cases rest with
      | nil => rfl
      | cons c rest =>
        have hc : isDigit c = false ∧ c ≠ '.' := by simpa [EndsFraction] using hrest
        simpa using hc.1
    simp [fraction, run_nanoseconds hall hne hnext]

/-! ## Offsets -/

/-- Signs of offsets are the plus sign, the hyphen and the minus sign. -/
def signs : List Char := ['+', '-', '−']

theorem mem_signs_iff : c ∈ signs ↔ c = '+' ∨ c = '-' ∨ c = '−' := by
  simp [signs]

variable {between : Scan Unit} {sign : Char} {hours minutes : Nat}

theorem run_sign (hsign : sign ∈ signs) (cs : List Char) :
    (oneOf ['+', '-', '−']).run (sign :: cs) = some (sign, cs) :=
  run_oneOf hsign

/-- An offset is read whatever its reader skips between hours and minutes, unless it has minutes that
make an hour. -/
theorem run_offset (hsign : sign ∈ signs) (hhours : hours < 100) (hminutes : minutes < 100)
    (hbetween : between.run cs = some ((), padded 2 minutes ++ rest)) :
    (Scan.offset between).run (sign :: (padded 2 hours ++ cs)) =
      if minutes < 60 then some (minutesEast sign hours minutes, rest) else none := by
  rw [Scan.offset, run_bind_some (run_sign hsign _), run_bind_some (run_twoDigits hhours),
    run_bind_some hbetween, run_bind_some (run_twoDigits hminutes)]
  by_cases hlt : minutes < 60
  · rw [if_pos hlt, if_neg (Nat.not_le.mpr hlt)]
    rfl
  · rw [if_neg hlt, if_pos (Nat.not_lt.mp hlt)]
    rfl

/-- No offset is read where its reader does not get from the hours to the minutes. -/
theorem run_offset_none (hsign : sign ∈ signs) (hhours : hours < 100) (h : between.run cs = none) :
    (Scan.offset between).run (sign :: (padded 2 hours ++ cs)) = none := by
  rw [Scan.offset, run_bind_some (run_sign hsign _), run_bind_some (run_twoDigits hhours),
    run_bind_none h]

end Scan

end RelationalQuery.Calendar
