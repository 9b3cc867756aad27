import RelationalQuery.Sql.Statement

/-!
# Placeholders in a text

`placeholders` reads the placeholders off a text, leaving out what stands in quotes. The scan looks
at one character at a time and carries nothing but the quote that is open, so a text can be read
piece by piece: a quoted name and plain words leave nothing behind, and a placeholder leaves itself.

* `countPlaceholders_eq` — counting placeholders is counting what the scan reads.
* `placeholders_quoteChars` — no name reaches beyond its quotes, whatever it contains.
* `placeholders_plain` — words without quotes and placeholders are passed over.
* `placeholders_placeholder` — a placeholder is read with the number that was written.
-/

namespace RelationalQuery

/-- Whether a character opens a part of a text that stands in quotes. -/
def isQuote (c : Char) : Bool := c = '"' || c = '\x60' || c = '\x27'

/-- Whether a character neither opens a quote nor belongs to the start of a placeholder. -/
def isPlain (c : Char) : Bool := !isQuote c && c ≠ '?' && c ≠ '$'

/-- The number that a text starts with. -/
def leadingNumber (text : List Char) : Nat := Nat.ofDigitChars 10 (text.takeWhile Text.isDigit) 0

/-- The placeholders of a text outside of quotes, each with its number if it has one. `quote` is the
quote that is open, if one is. -/
def placeholders (quote : Option Char) : List Char → List (Option Nat)
  | [] => []
  | c :: rest =>
    match quote with
    | some opening => placeholders (if c = opening then none else quote) rest
    | none =>
      if isQuote c then placeholders (some c) rest
      else if c = '?' then none :: placeholders none rest
      else if c = '$' ∧ rest.head?.any Text.isDigit then
        some (leadingNumber rest) :: placeholders none rest
      else placeholders none rest

/-- The numbers that are written behind `$` outside of quotes, in the order of the text. -/
def Statement.numbers (s : Statement) : List Nat := (placeholders none s.sql.toList).filterMap id

/-- The placeholders that are counted are those that the scan reads. -/
theorem countPlaceholders_eq (quote : Option Char) (text : List Char) :
    countPlaceholders quote text = (placeholders quote text).length := by
  induction text generalizing quote with
  | nil => rfl
  | cons c rest ih =>
    cases quote with
    | some opening =>
      rw [countPlaceholders, placeholders]
      exact ih _
    | none =>
      rw [countPlaceholders, placeholders]
      by_cases hq : isQuote c
      · have hq' : c = '"' ∨ c = '\x60' ∨ c = '\x27' := by
          simpa [isQuote, or_assoc] using hq
        rw [if_pos hq', if_pos hq]
        exact ih _
      · have hq' : ¬ (c = '"' ∨ c = '\x60' ∨ c = '\x27') := by
          simpa [isQuote, or_assoc] using hq
        rw [if_neg hq', if_neg hq]
        by_cases hm : c = '?'
        · rw [if_pos (Or.inl hm), if_pos hm, List.length_cons, ih]
        · by_cases hd : c = '$' ∧ rest.head?.any Text.isDigit
          · rw [if_pos (Or.inr hd), if_neg hm, if_pos hd, List.length_cons, ih]
          · rw [if_neg (fun h => h.elim hm hd), if_neg hm, if_neg hd]
            exact ih _

/-! ## Quoted names -/

/-- The quote of a dialect opens a quoted part. -/
theorem isQuote_quoteChar (d : Dialect) : isQuote d.quoteChar := by
  cases d <;> decide

/-- Inside of quotes a name with doubled quotes is passed over, up to the quote that closes it. -/
theorem placeholders_escaped {q : Char} (hq : isQuote q) (name rest : List Char) :
    placeholders (some q) (name.flatMap (fun c => if c = q then [c, c] else [c]) ++ q :: rest) =
      placeholders none rest := by
  induction name with
  | nil => simp [placeholders]
  | cons c name ih =>
    by_cases hc : c = q
    · -- a doubled quote closes the quotes and opens them again
      subst hc
      simpa [placeholders, hq] using ih
    · simpa [placeholders, hc] using ih

/-- A quoted name holds no placeholders, and the scan goes on behind it outside of quotes. -/
theorem placeholders_quoteChars (d : Dialect) (name rest : List Char) :
    placeholders none (d.quoteChars name ++ rest) = placeholders none rest := by
  have hq := isQuote_quoteChar d
  rw [Dialect.quoteChars, List.cons_append, List.append_assoc, placeholders]
  rw [if_pos hq]
  exact placeholders_escaped hq name rest

/-! ## Words -/

/-- Plain words are passed over. -/
theorem placeholders_plain {words : List Char} (h : words.all isPlain) (rest : List Char) :
    placeholders none (words ++ rest) = placeholders none rest := by
  induction words with
  | nil => rfl
  | cons c words ih =>
    rw [List.all_cons, Bool.and_eq_true] at h
    obtain ⟨hc, hwords⟩ := h
    simp only [isPlain, Bool.and_eq_true, Bool.not_eq_true', decide_eq_true_eq] at hc
    obtain ⟨⟨hquote, hmark⟩, hdollar⟩ := hc
    rw [List.cons_append, placeholders, if_neg (by simp [hquote]), if_neg hmark,
      if_neg (fun hd => hdollar hd.1)]
    exact ih hwords

/-! ## Numbers -/

/-- Digits are plain. -/
theorem isPlain_of_isDigit {c : Char} (h : Text.isDigit c) : isPlain c := by
  simp only [Text.isDigit, Bool.and_eq_true, decide_eq_true_eq] at h
  simp only [isPlain, isQuote, Bool.and_eq_true, Bool.not_eq_true', Bool.or_eq_false_iff,
    decide_eq_true_eq, decide_eq_false_iff_not]
  refine ⟨⟨⟨⟨?_, ?_⟩, ?_⟩, ?_⟩, ?_⟩ <;> · rintro rfl; revert h; decide

/-- The text of a number is made of digits. -/
theorem all_isDigit_toString (n : Nat) : (toString n).toList.all Text.isDigit := by
  rw [List.all_eq_true]
  intro c hc
  have hdigit : c.isDigit := by
    apply Nat.isDigit_of_mem_toDigits (b := 10) (n := n) (by omega) (by omega)
    simpa using hc
  simpa [Text.isDigit, Char.isDigit, Char.le_def] using hdigit

/-- The text of a number is not empty. -/
theorem toString_ne_nil (n : Nat) : (toString n).toList ≠ [] := by
  simp

/-- The number that is read back is the one that was written, unless more digits follow it. -/
theorem leadingNumber_toString (n : Nat) {rest : List Char}
    (h : rest.head?.any Text.isDigit = false) :
    leadingNumber ((toString n).toList ++ rest) = n := by
  -- reading digits ends where the number does
  have hstop : rest.takeWhile Text.isDigit = [] := by
    cases rest with
    | nil => rfl
    | cons c rest =>
      have hc : Text.isDigit c = false := by simpa using h
      rw [List.takeWhile_cons, hc]
      rfl
  have htake : ((toString n).toList ++ rest).takeWhile Text.isDigit = (toString n).toList := by
    have hdigits := List.all_eq_true.mp (all_isDigit_toString n)
    rw [List.takeWhile_append_of_pos hdigits, hstop, List.append_nil]
  rw [leadingNumber, htake]
  simp

/-- The characters of a placeholder. -/
theorem toList_placeholder (d : Dialect) (n : Nat) :
    (d.placeholder n).toList = if d.isNumbered then '$' :: (toString n).toList else ['?'] := by
  rw [Dialect.placeholder]
  split
  · exact String.toList_append
  · rfl

/-- A placeholder is read with its number, unless more digits follow it. -/
theorem placeholders_placeholder (d : Dialect) (n : Nat) {rest : List Char}
    (h : rest.head?.any Text.isDigit = false) :
    placeholders none ((d.placeholder n).toList ++ rest) =
      (if d.isNumbered then some n else none) :: placeholders none rest := by
  by_cases hd : d.isNumbered
  · have hdigits := all_isDigit_toString n
    have hhead : ((toString n).toList ++ rest).head?.any Text.isDigit := by
      cases htext : (toString n).toList with
      | nil => exact absurd htext (toString_ne_nil n)
      | cons c digits =>
        rw [htext, List.all_cons, Bool.and_eq_true] at hdigits
        exact hdigits.1
    have hplain : (toString n).toList.all isPlain := by
      rw [List.all_eq_true] at hdigits ⊢
      exact fun c hc => isPlain_of_isDigit (hdigits c hc)
    rw [toList_placeholder, if_pos hd, if_pos hd, List.cons_append, placeholders,
      if_neg (by decide), if_neg (by decide), if_pos ⟨rfl, hhead⟩, leadingNumber_toString n h,
      placeholders_plain hplain]
  · rw [toList_placeholder, if_neg hd, if_neg hd, List.cons_append, List.nil_append, placeholders,
      if_neg (by decide), if_pos rfl]

end RelationalQuery
