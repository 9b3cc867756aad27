import RelationalQuery.Proofs.Compile.Accepted
import RelationalQuery.Proofs.Meaning.Like

/-!
# Text searches

A text search binds its operand as a pattern, with `%` in front of it, behind it or on both sides. The
operand itself is not escaped: it is a pattern too, and what is looked for is any text that it matches
(`like_pattern_iff`). An operand without wildcards is found literally, and no other one is:
`literal_iff` finds a text for each wildcard that is matched without the operand being there.

## Shape of that text

A `%` matches the empty run, so the operand without its `%` is matched, and is shorter than the
operand. If there is only `_` in the operand, it matches the operand with another character in its
place, which is as long as the operand and not the same.
-/

namespace RelationalQuery

namespace TextMatch

/-- Whether a part of a text in the place that a search looks at is one of those that it looks for:
any part, one at the beginning, or one at the end. -/
def Finds : TextMatch → (List Char → Prop) → List Char → Prop
  | contains, wanted, text => ∃ part, part <:+: text ∧ wanted part
  | startsWith, wanted, text => ∃ part, part <+: text ∧ wanted part
  | endsWith, wanted, text => ∃ part, part <:+ text ∧ wanted part

variable {l : LetterCase} {place : TextMatch} {operand : String} {text : List Char}
  {wanted other : List Char → Prop}

/-- What is found is a part of the text. -/
theorem Finds.exists_part (h : place.Finds wanted text) : ∃ part, part <:+: text ∧ wanted part := by
  cases place with
  | contains => exact h
  | startsWith =>
    obtain ⟨part, hpart, hwanted⟩ := h
    exact ⟨part, hpart.isInfix, hwanted⟩
  | endsWith =>
    obtain ⟨part, hpart, hwanted⟩ := h
    exact ⟨part, hpart.isInfix, hwanted⟩

/-- The whole text is found in every place. -/
theorem Finds.of_whole (h : wanted text) : place.Finds wanted text := by
  cases place with
  | contains => exact ⟨text, List.infix_refl text, h⟩
  | startsWith => exact ⟨text, List.prefix_refl text, h⟩
  | endsWith => exact ⟨text, List.suffix_refl text, h⟩

theorem finds_congr (h : ∀ part, wanted part ↔ other part) :
    place.Finds wanted text ↔ place.Finds other text := by
  cases place <;> exact exists_congr fun part => and_congr_right fun _ => h part

/-- The pattern of a search matches a text if the operand, as a pattern, matches a part of it in the
right place. -/
theorem like_pattern_iff : Like l (place.pattern operand).toList text ↔
    place.Finds (Like l operand.toList) text := by
  cases place with
  | contains =>
    have hpattern : (contains.pattern operand).toList = ['%'] ++ operand.toList ++ ['%'] := by
      simp [pattern]
    rw [hpattern, like_append_iff]
    constructor
    · rintro ⟨ahead, behind, rfl, hahead, -⟩
      obtain ⟨skipped, part, rfl, -, hpart⟩ := like_append_iff.mp hahead
      exact ⟨part, ⟨skipped, behind, rfl⟩, hpart⟩
    · rintro ⟨part, ⟨skipped, behind, rfl⟩, hpart⟩
      refine ⟨skipped ++ part, behind, rfl, ?_, like_run behind⟩
      exact like_append_iff.mpr ⟨skipped, part, rfl, like_run skipped, hpart⟩
  | startsWith =>
    have hpattern : (startsWith.pattern operand).toList = operand.toList ++ ['%'] := by
      simp [pattern]
    rw [hpattern, like_append_iff]
    constructor
    · rintro ⟨part, behind, rfl, hpart, -⟩
      exact ⟨part, ⟨behind, rfl⟩, hpart⟩
    · rintro ⟨part, ⟨behind, rfl⟩, hpart⟩
      exact ⟨part, behind, rfl, hpart, like_run behind⟩
  | endsWith =>
    have hpattern : (endsWith.pattern operand).toList = ['%'] ++ operand.toList := by
      simp [pattern]
    rw [hpattern, like_append_iff]
    constructor
    · rintro ⟨skipped, part, rfl, -, hpart⟩
      exact ⟨part, ⟨skipped, rfl⟩, hpart⟩
    · rintro ⟨part, ⟨skipped, rfl⟩, hpart⟩
      exact ⟨skipped, part, rfl, like_run skipped, hpart⟩

end TextMatch

/-! ## Texts that are found by a wildcard -/

section Wildcards

variable {l : LetterCase} {pattern : List Char}

/-- A pattern matches itself without the characters that stand for runs. -/
theorem like_without_runs (l : LetterCase) (pattern : List Char) :
    Like l pattern (pattern.filter (· ≠ '%')) := by
  induction pattern with
  | nil => exact .nil
  | cons letter pattern ih =>
    by_cases hrun : letter = '%'
    · subst hrun
      exact .run [] ih
    · rw [List.filter_cons_of_pos (by simpa using hrun)]
      by_cases hone : letter = '_'
      · subst hone
        exact .one '_' ih
      · exact .letter (not_or.mpr ⟨hrun, hone⟩) rfl ih

/-- A pattern without runs matches itself with another character for each wildcard. -/
theorem like_filled (hruns : '%' ∉ pattern) :
    Like l pattern (pattern.map fun c => if c = '_' then 'a' else c) := by
  induction pattern with
  | nil => exact .nil
  | cons letter pattern ih =>
    rw [List.mem_cons, not_or] at hruns
    rw [List.map_cons]
    by_cases hone : letter = '_'
    · subst hone
      exact .one 'a' (ih hruns.2)
    · rw [if_neg hone]
      exact .letter (not_or.mpr ⟨Ne.symm hruns.1, hone⟩) rfl (ih hruns.2)

/-- Some text is matched by a pattern with a wildcard, and the pattern is no part of it. -/
theorem exists_like_not_same (h : ∃ c ∈ pattern, IsWildcard c) :
    ∃ text, Like l pattern text ∧ ∀ part, part <:+: text → ¬ l.Same pattern part := by
  by_cases hruns : '%' ∈ pattern
  · refine ⟨_, like_without_runs l pattern, fun part hpart hsame => ?_⟩
    have hshorter : (pattern.filter (· ≠ '%')).length < pattern.length :=
      List.length_filter_lt_length_iff_exists.mpr ⟨'%', hruns, by simp⟩
    have hfits := hpart.length_le
    have hsize := hsame.length_eq
    omega
  · obtain ⟨c, hc, hwildcard⟩ := h
    have hone : '_' ∈ pattern := by
      rcases hwildcard with rfl | rfl
      · exact absurd hc hruns
      · exact hc
    refine ⟨_, like_filled hruns, fun part hpart hsame => ?_⟩
    have hlength := hsame.length_eq
    have hwhole : part = pattern.map fun c => if c = '_' then 'a' else c :=
      hpart.eq_of_length (by rw [List.length_map, hlength])
    subst hwhole
    rw [LetterCase.Same, List.map_map] at hsame
    have hsame := List.map_inj_left.mp hsame '_' hone
    exact absurd (l.underscore 'a' hsame.symm) (by decide)

/-- A search is literal if and only if there is no wildcard in its operand. -/
theorem literal_iff {place : TextMatch} {operand : String} :
    (∀ text, Like l (place.pattern operand).toList text ↔
        place.Finds (l.Same operand.toList) text) ↔
      ∀ c ∈ operand.toList, ¬ IsWildcard c := by
  constructor
  · intro h
    by_contra hsome
    obtain ⟨text, hlike, hnot⟩ : ∃ text, Like l operand.toList text ∧
        ∀ part, part <:+: text → ¬ l.Same operand.toList part := by
      apply exists_like_not_same
      simpa using hsome
    obtain ⟨part, hpart, hsame⟩ :=
      ((h text).mp (TextMatch.like_pattern_iff.mpr (.of_whole hlike))).exists_part
    exact hnot part hpart hsame
  · intro hplain text
    rw [TextMatch.like_pattern_iff]
    exact TextMatch.finds_congr fun part => like_iff_same hplain

end Wildcards

/-! ## Searches in a database -/

/-- How a search of a database tells characters apart: by what is left of them if it has a word for
searches without regard to case and is asked for one. -/
def Engine.letters (e : Engine) (l : LetterCase) (insensitive : Bool) : LetterCase :=
  if insensitive && e.dialect.has .insensitiveSearch then l else .exact

namespace Compile

open Sql

variable {e : Engine} {l : LetterCase} {column : Column}

/-- The value of a column may be any. -/
theorem exists_value_eq (column : Column) (value : Value) :
    ∃ scopes, column.value scopes = value := by
  refine ⟨[[⟨⟨column.table.getD "", [column.name]⟩, fun _ => value⟩]], ?_⟩
  have hoffers : Heading.offers ⟨column.table.getD "", [column.name]⟩ column = true := by
    cases htable : column.table <;> simp [Heading.offers, htable]
  simp [Column.value, hoffers]

/-- A comparison with a pattern holds for the texts that the pattern matches. -/
theorem truth_like_iff (hreads : e.ReadsPatterns l) {scopes : List Frame} {text : String}
    (hvalue : column.value scopes = .text text) (insensitive : Bool) (pattern : String) :
    (Condition.compare column (.like insensitive) (.text pattern)).truth e scopes = .yes ↔
      Like (e.letters l insensitive) pattern.toList text.toList := by
  have htruth (b : Bool) : Truth.ofBool b = .yes ↔ b = true := by cases b <;> decide
  rw [Condition.truth, hvalue]
  change Truth.ofBool (e.holds _ _ _) = .yes ↔ _
  rw [htruth, Comparator.sql, Engine.letters]
  split
  · exact hreads.ilike text pattern
  · exact hreads.like text pattern

/-- The condition of a text search. -/
def searched (column : Column) (place : TextMatch) (insensitive : Bool) (operand : String) :
    Condition :=
  .compare column (.like insensitive) (.text (place.pattern operand))

/-- A text search is a comparison with a pattern around the operand. It finds the texts with a part in
the right place that the operand matches as a pattern of its own; and it finds the operand itself, in
every text and nothing else, if and only if there is no wildcard in the operand. -/
theorem truth_search_iff (hreads : e.ReadsPatterns l) {operand : Value}
    (hoperand : operand.IsSearchable) (column : Column) (field : String) (place : TextMatch)
    (insensitive : Bool) :
    comparison column field (Comparison.search place insensitive).key operand =
        .ok (searched column place insensitive operand.display) ∧
      (∀ scopes text, column.value scopes = .text text →
        ((searched column place insensitive operand.display).truth e scopes = .yes ↔
          place.Finds (Like (e.letters l insensitive) operand.display.toList) text.toList)) ∧
      ((∀ scopes text, column.value scopes = .text text →
          ((searched column place insensitive operand.display).truth e scopes = .yes ↔
            place.Finds ((e.letters l insensitive).Same operand.display.toList) text.toList)) ↔
        ∀ c ∈ operand.display.toList, ¬ IsWildcard c) := by
  refine ⟨?_, fun scopes text hvalue => ?_, ?_⟩
  · rw [comparison_key (by simp), compareWith, searchText_of_isSearchable hoperand]
    rfl
  · rw [searched, truth_like_iff hreads hvalue, TextMatch.like_pattern_iff]
  · have hiff := @literal_iff (e.letters l insensitive) place operand.display
    rw [← hiff]
    constructor
    · intro h text
      obtain ⟨scopes, hvalue⟩ := exists_value_eq column (.text (String.ofList text))
      have hfinds := h scopes _ hvalue
      rwa [searched, truth_like_iff hreads hvalue, String.toList_ofList] at hfinds
    · intro h scopes text hvalue
      rw [searched, truth_like_iff hreads hvalue]
      exact h text.toList

/-! ## A database of texts -/

/-- No letter is an underscore without its case. -/
theorem eq_underscore_of_toLower {c : Char} (h : c.toLower = '_'.toLower) : c = '_' := by
  have hself : '_'.toLower = '_' := by decide
  rw [hself] at h
  delta Char.toLower at h
  split at h
  · next hupper =>
    -- the underscore is not among the small letters, where capital ones are moved to
    have hcode : c.val + 32 = 95 := congrArg Char.val h
    have hfirst : 65 ≤ c.val := hupper.1
    have hlast : c.val ≤ 90 := hupper.2
    grind
  · exact h

/-- Letters of the English alphabet without their case. -/
def english : LetterCase where
  fold := Char.toLower
  underscore _ := eq_underscore_of_toLower

/-- Whether a text is matched by a pattern, as a word of a search reads it. -/
def matchesPattern (word : String) : Value → Value → Bool
  | .text text, .text pattern =>
    decide (Like (if word = "ILIKE" then english else .exact) pattern.toList text.toList)
  | _, _ => false

/-- A database that compares texts with patterns and does nothing else. -/
def textEngine (d : Dialect) : Engine := ⟨d, fun _ => ⟨[], []⟩, matchesPattern⟩

/-- A text that is searched for in names, without regard to case where the dialect can. -/
theorem truth_search_ann : (textEngine .postgres).ReadsPatterns english ∧
    comparison ⟨none, "name"⟩ "name" "containsInsensitive" (.text "Ann") =
      .ok (searched ⟨none, "name"⟩ .contains true "Ann") ∧
    ∀ scopes text, Column.value scopes ⟨none, "name"⟩ = .text text →
      ((searched ⟨none, "name"⟩ .contains true "Ann").truth (textEngine .postgres) scopes = .yes ↔
        ∃ part, part <:+: text.toList ∧ english.Same "Ann".toList part) := by
  have hreads : (textEngine .postgres).ReadsPatterns english :=
    ⟨fun _ _ => decide_eq_true_iff, fun _ _ => decide_eq_true_iff⟩
  have hsearchable : Value.IsSearchable (.text "Ann") := trivial
  obtain ⟨hcondition, -, hliteral⟩ :=
    truth_search_iff hreads hsearchable ⟨none, "name"⟩ "name" .contains true
  have hplain : ∀ c ∈ ['A', 'n', 'n'], ¬ IsWildcard c := by simp [IsWildcard]
  exact ⟨hreads, hcondition, hliteral.mpr hplain⟩

/-- A row that is in sight, with one name. -/
def ann : List Frame := [[⟨⟨"users", ["name"]⟩, fun _ => .text "Ann"⟩]]

/-- A text that contains no percent sign is found by a search for one. -/
theorem truth_search_percent :
    comparison ⟨none, "name"⟩ "name" "contains" (.text "%") =
        .ok (searched ⟨none, "name"⟩ .contains false "%") ∧
      Column.value ann ⟨none, "name"⟩ = .text "Ann" ∧
      (searched ⟨none, "name"⟩ .contains false "%").truth (textEngine .postgres) ann = .yes ∧
      ¬ "%".toList <:+: "Ann".toList :=
  ⟨rfl, rfl, by decide, by decide⟩

end Compile

end RelationalQuery
