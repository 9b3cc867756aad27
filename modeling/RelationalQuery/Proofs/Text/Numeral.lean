import Mathlib.Data.Nat.Digits.Defs
import RelationalQuery.Calendar.Moment
import RelationalQuery.Proofs.Sql.Scan
import RelationalQuery.Text.Blank

/-!
# Numerals and white space

What readers of numbers rest on: a run of ASCII digits stands for the number that it spells, a number
that was padded to a width is read back, and white space around a text is taken off exactly where the
text itself neither starts nor ends with any.
-/

namespace RelationalQuery.Text

variable {cs : List Char} {c : Char}

/-! ## Digits -/

theorem isDigit_iff : isDigit c ↔ 48 ≤ c.toNat ∧ c.toNat ≤ 57 := by
  rw [isDigit, Bool.and_eq_true, decide_eq_true_eq, decide_eq_true_eq, Char.le_def, Char.le_def]
  exact Iff.rfl

theorem digit_lt_ten (h : isDigit c) : digit c < 10 := by
  obtain ⟨hlow, hhigh⟩ := isDigit_iff.mp h
  rw [digit]
  omega

/-- A digit is no white space. -/
theorem isBlank_of_isDigit (h : isDigit c) : isBlank c = false := by
  obtain ⟨hlow, hhigh⟩ := isDigit_iff.mp h
  simp only [isBlank, Bool.or_eq_false_iff, Bool.and_eq_false_iff, decide_eq_false_iff_not,
    beq_eq_false_iff_ne]
  omega

/-- A run of digits is read like any numeral in base ten. -/
theorem numeral_eq_ofDigitChars (cs : List Char) : numeral cs = Nat.ofDigitChars 10 cs 0 := rfl

/-- Digits that follow a number multiply it by a power of ten. -/
theorem foldl_numeral (n : Nat) (cs : List Char) :
    cs.foldl (fun n c => 10 * n + digit c) n = n * 10 ^ cs.length + numeral cs := by
  induction cs generalizing n with
  | nil => simp [numeral]
  | cons c cs ih =>
    have hfirst : numeral (c :: cs) = digit c * 10 ^ cs.length + numeral cs := by
      rw [numeral, List.foldl_cons, Nat.mul_zero, Nat.zero_add, ih]
    rw [List.foldl_cons, ih, hfirst, List.length_cons, pow_succ]
    ring

theorem numeral_append (front back : List Char) :
    numeral (front ++ back) = numeral front * 10 ^ back.length + numeral back := by
  rw [numeral, List.foldl_append, foldl_numeral]
  rfl

theorem numeral_cons (c : Char) (cs : List Char) :
    numeral (c :: cs) = digit c * 10 ^ cs.length + numeral cs := by
  rw [numeral, List.foldl_cons, Nat.mul_zero, Nat.zero_add, foldl_numeral]

/-- A numeral of so many digits stands for less than that power of ten. -/
theorem numeral_lt (h : cs.all isDigit) : numeral cs < 10 ^ cs.length := by
  induction cs with
  | nil => exact Nat.one_pos
  | cons c cs ih =>
    rw [List.all_cons, Bool.and_eq_true] at h
    have hrest := ih h.2
    have hdigit : (digit c + 1) * 10 ^ cs.length ≤ 10 * 10 ^ cs.length :=
      Nat.mul_le_mul_right _ (digit_lt_ten h.1)
    rw [Nat.add_mul, Nat.one_mul] at hdigit
    rw [numeral_cons, List.length_cons, pow_succ]
    omega

/-- The text of a number is read back. -/
theorem numeral_toString (n : Nat) : numeral (toString n).toList = n := by
  rw [numeral_eq_ofDigitChars]
  simp

theorem numeral_replicate_zero (n : Nat) : numeral (List.replicate n '0') = 0 := by
  induction n with
  | zero => rfl
  | succ n ih =>
    rw [List.replicate_succ, numeral_cons, ih]
    exact Nat.zero_mul _

/-! ## White space -/

/-- Taking white space off the front takes all of it, up to the text. -/
theorem trimLeft_append {before rest : List Char} (hbefore : before.all isBlank)
    (hfirst : rest.head?.all fun c => !isBlank c) : trimLeft (before ++ rest) = rest := by
  rw [trimLeft, List.dropWhile_append_of_pos (List.all_eq_true.mp hbefore)]
  cases rest with
  | nil => rfl
  | cons c rest =>
    have hc : isBlank c = false := by simpa using hfirst
    rw [List.dropWhile_cons, hc]
    rfl

theorem trimRight_append {rest after : List Char} (hafter : after.all isBlank)
    (hlast : rest.getLast?.all fun c => !isBlank c) : trimRight (rest ++ after) = rest := by
  have hreverse : trimLeft (after.reverse ++ rest.reverse) = rest.reverse := by
    apply trimLeft_append
    · rwa [List.all_reverse]
    · rwa [List.head?_reverse]
  rw [trimRight, List.reverse_append]
  rw [trimLeft] at hreverse
  rw [hreverse, List.reverse_reverse]

/-- White space is taken off both ends, where the text itself neither starts nor ends with any. -/
theorem trimChars_append {before text after : List Char} (hbefore : before.all isBlank)
    (hafter : after.all isBlank) (hfirst : text.head?.all fun c => !isBlank c)
    (hlast : text.getLast?.all fun c => !isBlank c) :
    trimChars (before ++ text ++ after) = text := by
  cases text with
  | nil =>
    have hblank : (before ++ after).all isBlank := by
      rw [List.all_append, hbefore, hafter]
      rfl
    rw [trimChars, List.append_nil, ← List.append_nil (before ++ after), trimLeft_append hblank rfl]
    rfl
  | cons c text =>
    have hleft : trimLeft (before ++ (c :: text ++ after)) = c :: text ++ after :=
      trimLeft_append hbefore hfirst
    rw [trimChars, List.append_assoc, hleft, trimRight_append hafter hlast]

/-- What is taken off is white space. -/
theorem exists_trimChars (cs : List Char) :
    ∃ before after, cs = before ++ trimChars cs ++ after ∧ before.all isBlank ∧
      after.all isBlank := by
  have hleft : cs = cs.takeWhile isBlank ++ trimLeft cs := List.takeWhile_append_dropWhile.symm
  have hright : trimLeft cs =
      trimRight (trimLeft cs) ++ ((trimLeft cs).reverse.takeWhile isBlank).reverse := by
    rw [trimRight, ← List.reverse_append, List.takeWhile_append_dropWhile, List.reverse_reverse]
  refine ⟨cs.takeWhile isBlank, ((trimLeft cs).reverse.takeWhile isBlank).reverse, ?_,
    List.all_takeWhile, ?_⟩
  · rw [trimChars, List.append_assoc, ← hright, ← hleft]
  · rw [List.all_reverse]
    exact List.all_takeWhile

end RelationalQuery.Text
