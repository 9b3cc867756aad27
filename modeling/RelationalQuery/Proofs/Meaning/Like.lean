import RelationalQuery.Proofs.Meaning.Evaluation

/-!
# Patterns

`Like` is how SQL reads a pattern: `%` stands for any run of characters, `_` for any one character,
and every other character for itself. A search that sets the case of letters aside compares
characters by what a `LetterCase` leaves of them.

## Shape of the matches

Every match is the concatenation of matches of the pattern's characters, so a pattern is taken apart
wherever it is put together (`like_append_iff`).
-/

namespace RelationalQuery

/-! ## Characters -/

/-- Whether a character stands for other ones in a pattern. -/
def IsWildcard (c : Char) : Prop := c = '%' ∨ c = '_'

instance (c : Char) : Decidable (IsWildcard c) := inferInstanceAs (Decidable (_ ∨ _))

/-- What is left of a character where it is compared with others: two letters that differ in their
case may be the same, but no other character is the same as an underscore. -/
structure LetterCase where
  fold : Char → Char
  underscore : ∀ c, fold c = fold '_' → c = '_'

namespace LetterCase

/-- Every character is told apart from every other one. -/
def exact : LetterCase := ⟨id, fun _ h => h⟩

/-- Whether two texts are the same, as far as characters are told apart. -/
def Same (l : LetterCase) (a b : List Char) : Prop := a.map l.fold = b.map l.fold

variable {l : LetterCase} {a b : List Char}

theorem Same.length_eq (h : l.Same a b) : a.length = b.length := by
  have hlength := congrArg List.length h
  rwa [List.length_map, List.length_map] at hlength

end LetterCase

/-! ## Matches -/

/-- Whether a pattern matches a text. -/
inductive Like (l : LetterCase) : List Char → List Char → Prop
  | nil : Like l [] []
  | run {pattern text : List Char} (skipped : List Char) (rest : Like l pattern text) :
    Like l ('%' :: pattern) (skipped ++ text)
  | one {pattern text : List Char} (c : Char) (rest : Like l pattern text) :
    Like l ('_' :: pattern) (c :: text)
  | letter {letter c : Char} {pattern text : List Char} (plain : ¬ IsWildcard letter)
    (same : l.fold letter = l.fold c) (rest : Like l pattern text) :
    Like l (letter :: pattern) (c :: text)

variable {l : LetterCase} {pattern text : List Char} {letter : Char}

theorem like_nil_iff : Like l [] text ↔ text = [] := by
  constructor
  · rintro ⟨⟩
    rfl
  · rintro rfl
    exact .nil

theorem like_run_iff :
    Like l ('%' :: pattern) text ↔ ∃ skipped rest, text = skipped ++ rest ∧ Like l pattern rest := by
  constructor
  · intro h
    cases h with
    | run skipped rest => exact ⟨skipped, _, rfl, rest⟩
    | letter plain => exact absurd (.inl rfl) plain
  · rintro ⟨skipped, rest, rfl, hrest⟩
    exact .run skipped hrest

theorem like_one_iff :
    Like l ('_' :: pattern) text ↔ ∃ c rest, text = c :: rest ∧ Like l pattern rest := by
  constructor
  · intro h
    cases h with
    | one c rest => exact ⟨c, _, rfl, rest⟩
    | letter plain => exact absurd (.inr rfl) plain
  · rintro ⟨c, rest, rfl, hrest⟩
    exact .one c hrest

theorem like_letter_iff (hplain : ¬ IsWildcard letter) : Like l (letter :: pattern) text ↔
    ∃ c rest, text = c :: rest ∧ l.fold letter = l.fold c ∧ Like l pattern rest := by
  constructor
  · intro h
    cases h with
    | run => exact absurd (.inl rfl) hplain
    | one => exact absurd (.inr rfl) hplain
    | letter plain same rest => exact ⟨_, _, rfl, same, rest⟩
  · rintro ⟨c, rest, rfl, hsame, hrest⟩
    exact .letter hplain hsame hrest

/-- A pattern that is put together matches what its parts match, one after the other. -/
theorem like_append_iff {first second : List Char} : Like l (first ++ second) text ↔
    ∃ a b, text = a ++ b ∧ Like l first a ∧ Like l second b := by
  constructor
  · intro h
    induction first generalizing text with
    | nil => exact ⟨[], text, rfl, .nil, h⟩
    | cons letter first ih =>
      rw [List.cons_append] at h
      cases h with
      | run skipped rest =>
        obtain ⟨a, b, rfl, ha, hb⟩ := ih rest
        exact ⟨skipped ++ a, b, (List.append_assoc _ _ _).symm, .run skipped ha, hb⟩
      | one c rest =>
        obtain ⟨a, b, rfl, ha, hb⟩ := ih rest
        exact ⟨c :: a, b, rfl, .one c ha, hb⟩
      | letter plain same rest =>
        obtain ⟨a, b, rfl, ha, hb⟩ := ih rest
        exact ⟨_ :: a, b, rfl, .letter plain same ha, hb⟩
  · rintro ⟨a, b, rfl, ha, hb⟩
    induction ha with
    | nil => exact hb
    | run skipped rest ih =>
      rw [List.append_assoc]
      exact .run skipped ih
    | one c rest ih => exact .one c ih
    | letter plain same rest ih => exact .letter plain same ih

/-- A run of characters may be any text. -/
theorem like_run (text : List Char) : Like l ['%'] text :=
  like_run_iff.mpr ⟨text, [], (List.append_nil _).symm, .nil⟩

/-- A pattern without wildcards matches nothing but itself. -/
theorem like_iff_same (hplain : ∀ c ∈ pattern, ¬ IsWildcard c) :
    Like l pattern text ↔ l.Same pattern text := by
  induction pattern generalizing text with
  | nil => rw [like_nil_iff, LetterCase.Same, List.map_nil, eq_comm (a := []), List.map_eq_nil_iff]
  | cons letter pattern ih =>
    rw [List.forall_mem_cons] at hplain
    rw [like_letter_iff hplain.1, LetterCase.Same, List.map_cons, eq_comm (a := l.fold letter :: _),
      List.map_eq_cons_iff]
    refine exists₂_congr fun c rest => and_congr_right fun _ => ?_
    rw [ih hplain.2, eq_comm (a := l.fold c)]
    exact and_congr_right fun _ => eq_comm

/-! ## Matches by computation -/

/-- Whether a pattern matches a text, by trying every run that a `%` may stand for. -/
def covers (l : LetterCase) : List Char → List Char → Bool
  | [], text => text.isEmpty
  | '%' :: pattern, text => (List.range (text.length + 1)).any fun n => covers l pattern (text.drop n)
  | '_' :: _, [] => false
  | '_' :: pattern, _ :: text => covers l pattern text
  | _ :: _, [] => false
  | letter :: pattern, c :: text => l.fold letter == l.fold c && covers l pattern text

theorem covers_iff : covers l pattern text = true ↔ Like l pattern text := by
  induction pattern generalizing text with
  | nil => rw [covers, List.isEmpty_iff, like_nil_iff]
  | cons letter pattern ih =>
    by_cases hrun : letter = '%'
    · subst hrun
      rw [covers, List.any_eq_true, like_run_iff]
      constructor
      · rintro ⟨n, -, hrest⟩
        exact ⟨text.take n, text.drop n, (List.take_append_drop n text).symm, ih.mp hrest⟩
      · rintro ⟨skipped, rest, rfl, hrest⟩
        refine ⟨skipped.length, List.mem_range.mpr ?_, ?_⟩
        · rw [List.length_append]
          omega
        · rwa [List.drop_left, ih]
    · by_cases hone : letter = '_'
      · subst hone
        rw [like_one_iff]
        cases text with
        | nil => simp [covers]
        | cons c text => simp [covers, ih, and_assoc]
      · have hplain : ¬ IsWildcard letter := not_or.mpr ⟨hrun, hone⟩
        rw [like_letter_iff hplain]
        cases text with
        | nil => simp [covers]
        | cons c text => simp [covers, ih, and_assoc]

instance (l : LetterCase) (pattern text : List Char) : Decidable (Like l pattern text) :=
  decidable_of_iff _ covers_iff

/-! ## Databases -/

/-- Whether a database reads patterns in the standard way: `LIKE` tells all characters apart, `ILIKE`
those that are different apart from their case. -/
structure Engine.ReadsPatterns (e : Engine) (l : LetterCase) : Prop where
  like : ∀ text pattern : String, e.holds "LIKE" (.text text) (.text pattern) = true ↔
    Like .exact pattern.toList text.toList
  ilike : ∀ text pattern : String, e.holds "ILIKE" (.text text) (.text pattern) = true ↔
    Like l pattern.toList text.toList

end RelationalQuery
