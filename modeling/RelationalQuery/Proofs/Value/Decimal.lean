import RelationalQuery.Proofs.Text.Numeral
import RelationalQuery.Value.Conversion

/-!
# Whole numbers as text

Which texts are read as 64-bit integers, and as which. `Spells` is the grammar: at most one sign
before at least one digit. A text is read if it is such a numeral with any white space around it and
its number is in range, whatever its length; `toInt_text_eq_ok_iff` says so in both directions, so no
text is read as a number that it does not spell.
-/

namespace RelationalQuery.Value

open Text

/-- The numerals of whole numbers: at least one decimal digit behind at most one sign. -/
inductive Spells : List Char → Int → Prop
  | bare {digits : List Char} (ne_nil : digits ≠ []) (all_digits : digits.all isDigit) :
    Spells digits (Nat.ofDigitChars 10 digits 0)
  | plus {digits : List Char} (ne_nil : digits ≠ []) (all_digits : digits.all isDigit) :
    Spells ('+' :: digits) (Nat.ofDigitChars 10 digits 0)
  | minus {digits : List Char} (ne_nil : digits ≠ []) (all_digits : digits.all isDigit) :
    Spells ('-' :: digits) (-(Nat.ofDigitChars 10 digits 0 : Int))

/-- A numeral with any white space around it. -/
def SpellsWithin (text : List Char) (n : Int) : Prop :=
  ∃ before numeral after, text = before ++ numeral ++ after ∧ before.all isBlank ∧
    after.all isBlank ∧ Spells numeral n

/-- Whether a number is one of 64 bits. -/
def IsInt64 (n : Int) : Prop := -2 ^ 63 ≤ n ∧ n < 2 ^ 63

variable {cs : List Char} {n : Int}

/-! ## Numerals -/

/-- A sign is no digit. -/
theorem ne_sign_of_all_digits (h : cs.all isDigit) (rest : List Char) :
    cs ≠ '-' :: rest ∧ cs ≠ '+' :: rest := by
  constructor <;>
  · rintro rfl
    rw [List.all_cons, Bool.and_eq_true] at h
    exact absurd h.1 (by decide)

/-- The reader accepts the numerals, and reads each as the number that it spells. -/
theorem decimalInt?_eq_some_iff : decimalInt? cs = some n ↔ Spells cs n := by
  -- what is read where no sign is left
  have hdigits (digits : List Char) (m : Int) :
      (if digits.isEmpty ∨ ¬digits.all isDigit then none else some (numeral digits)).bind
        (fun k => some (k : Int)) = some m ↔
        digits ≠ [] ∧ digits.all isDigit ∧ (Nat.ofDigitChars 10 digits 0 : Int) = m := by
    rw [numeral_eq_ofDigitChars]
    split
    · next h =>
      constructor
      · intro hnone
        cases hnone
      · rintro ⟨hne, hall, -⟩
        rcases h with hempty | hnot
        · exact absurd (List.isEmpty_iff.mp hempty) hne
        · exact absurd hall hnot
    · next h =>
      rw [not_or, not_not, List.isEmpty_iff] at h
      rw [Option.bind_some, Option.some.injEq]
      exact ⟨fun hm => ⟨h.1, h.2, hm⟩, fun hm => hm.2.2⟩
  rw [decimalInt?.eq_def]
  constructor
  · intro h
    split at h
    all_goals
      obtain ⟨m, hm, rfl⟩ := Option.map_eq_some_iff.mp h
      obtain ⟨hne, hall, rfl⟩ := (hdigits _ m).mp hm
    · exact .minus hne hall
    · exact .plus hne hall
    · exact .bare hne hall
  · intro h
    cases h with
    | bare hne hall =>
      split
      · next rest => exact absurd rfl (ne_sign_of_all_digits hall rest).1
      · next rest => exact absurd rfl (ne_sign_of_all_digits hall rest).2
      · exact Option.map_eq_some_iff.mpr ⟨_, (hdigits cs _).mpr ⟨hne, hall, rfl⟩, rfl⟩
    | plus hne hall =>
      exact Option.map_eq_some_iff.mpr ⟨_, (hdigits _ _).mpr ⟨hne, hall, rfl⟩, rfl⟩
    | minus hne hall =>
      exact Option.map_eq_some_iff.mpr ⟨_, (hdigits _ _).mpr ⟨hne, hall, rfl⟩, rfl⟩

/-- A numeral starts and ends with no white space. -/
theorem Spells.not_blank (h : Spells cs n) :
    (cs.head?.all fun c => !isBlank c) ∧ cs.getLast?.all fun c => !isBlank c := by
  have hdigits {digits : List Char} (hall : digits.all isDigit) {c : Char} (hc : c ∈ digits) :
      (!isBlank c) = true := by
    rw [isBlank_of_isDigit (List.all_eq_true.mp hall c hc)]
    rfl
  have hend {digits : List Char} (hall : digits.all isDigit) :
      digits.getLast?.all fun c => !isBlank c := by
    rw [Option.all_eq_true]
    exact fun c hc => hdigits hall (List.mem_of_getLast? hc)
  cases h with
  | bare ne_nil all_digits =>
    refine ⟨?_, hend all_digits⟩
    rw [Option.all_eq_true]
    exact fun c hc => hdigits all_digits (List.mem_of_head? hc)
  | plus ne_nil all_digits =>
    rw [List.getLast?_cons_of_ne_nil ne_nil]
    exact ⟨rfl, hend all_digits⟩
  | minus ne_nil all_digits =>
    rw [List.getLast?_cons_of_ne_nil ne_nil]
    exact ⟨rfl, hend all_digits⟩

/-- With white space taken off a text is a numeral if it is one with white space around it. -/
theorem spells_trimChars_iff {text : List Char} : Spells (trimChars text) n ↔ SpellsWithin text n := by
  constructor
  · intro h
    obtain ⟨before, after, htext, hbefore, hafter⟩ := exists_trimChars text
    exact ⟨before, trimChars text, after, htext, hbefore, hafter, h⟩
  · rintro ⟨before, numeral, after, rfl, hbefore, hafter, h⟩
    rwa [trimChars_append hbefore hafter h.not_blank.1 h.not_blank.2]

/-! ## The range -/

/-- A number in range is the one integer of 64 bits that has its value. -/
theorem int64?_eq_some_iff {k : Int64} : int64? n = some k ↔ n = k.toInt := by
  rw [int64?, Int64.toInt_minValue, Int64.toInt_maxValue]
  constructor
  · intro h
    split at h
    · next hrange =>
      obtain rfl := Option.some.inj h
      rw [Int64.toInt_ofInt_of_le hrange.1 (by omega)]
    · cases h
  · rintro rfl
    have hlow := k.le_toInt
    have hhigh := k.toInt_lt
    rw [if_pos (by omega), Int64.ofInt_toInt]

/-- A text is read as an integer of 64 bits if it is a numeral that spells it. -/
theorem decimalInt?_bind_int64?_eq_some_iff {k : Int64} :
    (decimalInt? cs).bind int64? = some k ↔ Spells cs k.toInt := by
  rw [← decimalInt?_eq_some_iff, Option.bind_eq_some_iff]
  constructor
  · rintro ⟨n, hn, hk⟩
    rw [hn, int64?_eq_some_iff.mp hk]
  · intro h
    exact ⟨k.toInt, h, int64?_eq_some_iff.mpr rfl⟩

/-- The numbers in range are the values of the integers of 64 bits. -/
theorem isInt64_iff : IsInt64 n ↔ ∃ k : Int64, k.toInt = n := by
  constructor
  · rintro ⟨hlow, hhigh⟩
    exact ⟨Int64.ofInt n, Int64.toInt_ofInt_of_le hlow hhigh⟩
  · rintro ⟨k, rfl⟩
    exact ⟨k.le_toInt, k.toInt_lt⟩

/-! ## Texts -/

/-- A text is read as an integer if it spells it, with any white space around. -/
theorem parseInt?_eq_some_iff {s : String} {k : Int64} :
    parseInt? s = some k ↔ SpellsWithin s.toList k.toInt := by
  rw [← spells_trimChars_iff]
  exact decimalInt?_bind_int64?_eq_some_iff

theorem toInt_text_eq_ok_iff {s : String} {k : Int64} :
    (Value.text s).toInt = .ok k ↔ SpellsWithin s.toList k.toInt := by
  rw [← parseInt?_eq_some_iff, toInt]
  cases parseInt? s <;> simp

/-- Every other text is refused. -/
theorem toInt_text_eq_error {s : String} (h : ∀ n, SpellsWithin s.toList n → ¬ IsInt64 n) :
    (Value.text s).toInt = .error ⟨"string", "i64"⟩ := by
  cases hparse : parseInt? s with
  | none => rw [toInt, hparse]
  | some k => exact absurd (isInt64_iff.mpr ⟨k, rfl⟩) (h _ (parseInt?_eq_some_iff.mp hparse))

end RelationalQuery.Value
