import RelationalQuery.Proofs.Sql.Placeholders

/-!
# Text outside of quoted names

What a name contains is no part of the syntax of a statement. `Statement.outside` leaves it out and
keeps the quotes, so that the text in front of a name does not run into the text behind it.
A statement keeps to its dialect if this text has none of the words of optional features that the
dialect lacks, and no placeholder that is foreign to it.

## Shape of the proof

No phrase has one of these words. Two phrases side by side could still have one together, but the
words are made of letters only, and no letter or digit of a phrase stands right behind another one:
a word that is neither in one part nor in the other is not in both (`not_infix_append`).
-/

namespace RelationalQuery

/-! ## Leaving out names -/

/-- A text without what stands between quotes. `inside` says whether a quote is open. -/
def outsideOf (quote : Char) (inside : Bool) : List Char → List Char
  | [] => []
  | c :: rest =>
    if c = quote then c :: outsideOf quote (!inside) rest
    else if inside then outsideOf quote inside rest
    else c :: outsideOf quote inside rest

/-- The text of a statement outside of quoted names. -/
def Statement.outside (d : Dialect) (s : Statement) : List Char :=
  outsideOf d.quoteChar false s.sql.toList

/-- Words without quotes are kept. -/
theorem outsideOf_append {quote : Char} {words : List Char} (h : quote ∉ words)
    (rest : List Char) :
    outsideOf quote false (words ++ rest) = words ++ outsideOf quote false rest := by
  induction words with
  | nil => rfl
  | cons c words ih =>
    rw [List.mem_cons, not_or] at h
    rw [List.cons_append, outsideOf, if_neg (Ne.symm h.1), ih h.2]
    rfl

/-- Nothing but quotes is left of a name and the quote that closes it. -/
theorem outsideOf_escaped (quote : Char) (name rest : List Char) :
    ∃ quotes, (∀ c ∈ quotes, c = quote) ∧
      outsideOf quote true (name.flatMap (fun c => if c = quote then [c, c] else [c]) ++
        quote :: rest) = quotes ++ quote :: outsideOf quote false rest := by
  induction name with
  | nil => exact ⟨[], fun _ h => absurd h List.not_mem_nil, by simp [outsideOf]⟩
  | cons c name ih =>
    obtain ⟨quotes, hquotes, hrest⟩ := ih
    by_cases hc : c = quote
    · -- a doubled quote closes the quotes and opens them again
      subst hc
      refine ⟨c :: c :: quotes, ?_, ?_⟩
      · intro x hx
        rcases List.mem_cons.mp hx with rfl | hx
        · rfl
        · rcases List.mem_cons.mp hx with rfl | hx
          · rfl
          · exact hquotes x hx
      · simpa [outsideOf] using hrest
    · exact ⟨quotes, hquotes, by simpa [outsideOf, hc] using hrest⟩

/-- Nothing but quotes is left of a quoted name. -/
theorem outsideOf_quoteChars (d : Dialect) (name rest : List Char) :
    ∃ quotes, (∀ c ∈ quotes, c = d.quoteChar) ∧
      outsideOf d.quoteChar false (d.quoteChars name ++ rest) =
        quotes ++ d.quoteChar :: outsideOf d.quoteChar false rest := by
  obtain ⟨quotes, hquotes, hrest⟩ := outsideOf_escaped d.quoteChar name rest
  refine ⟨d.quoteChar :: quotes, ?_, ?_⟩
  · intro c hc
    rcases List.mem_cons.mp hc with rfl | hc
    · rfl
    · exact hquotes c hc
  · rw [Dialect.quoteChars, List.cons_append, List.append_assoc, outsideOf, if_pos rfl]
    exact congrArg (d.quoteChar :: ·) hrest

/-! ## Words in parts of a text -/

section Words

variable {word a b : List Char}

/-- A word is not in a text that lacks one of its letters. -/
theorem not_infix_of_not_mem {c : Char} (hc : c ∈ word) (h : c ∉ a) : ¬ word <:+: a :=
  fun hpart => h (hpart.subset hc)

/-- A word that is neither in one part of a text nor in the other is not in the text, unless letters
or digits meet where the parts do. -/
theorem not_infix_append (hword : ∀ c ∈ word, isWordChar c) (ha : ¬ word <:+: a)
    (hb : ¬ word <:+: b)
    (h : a.getLast?.all isWordChar = false ∨ b.head?.any isWordChar = false) :
    ¬ word <:+: a ++ b := by
  rw [List.infix_append_iff]
  rintro (hpart | hpart | ⟨front, back, rfl, hfront, hback⟩)
  · exact ha hpart
  · exact hb hpart
  · rcases h with hend | hstart
    · -- the front ends with a letter, as the first part does
      rcases List.eq_nil_or_concat front with rfl | ⟨init, c, rfl⟩
      · exact hb hback.isInfix
      · obtain ⟨before, rfl⟩ := hfront
        have hc : isWordChar c := hword c (by simp)
        simp [hc] at hend
    · cases back with
      | nil => exact ha (by simpa using hfront.isInfix)
      | cons c back =>
        obtain ⟨after, rfl⟩ := hback
        have hc : isWordChar c := hword c (by simp)
        simp [hc] at hstart

/-- Marks in front of a text have no part in its words. -/
theorem not_infix_marks_append {marks : List Char} {mark : Char}
    (hword : ∀ c ∈ word, isWordChar c) (hmarks : ∀ c ∈ marks, isWordChar c = false)
    (hmark : isWordChar mark = false) (hb : ¬ word <:+: b) :
    ¬ word <:+: marks ++ mark :: b := by
  have hne : word ≠ [] := fun h => hb (h ▸ List.nil_infix)
  obtain ⟨c, hc⟩ := List.exists_mem_of_ne_nil word hne
  have hfront : ¬ word <:+: marks ++ [mark] := by
    refine not_infix_of_not_mem hc fun hmem => ?_
    have hc' := hword c hc
    rcases List.mem_append.mp hmem with h | h
    · rw [hmarks c h] at hc'
      cases hc'
    · rw [List.mem_singleton.mp h, hmark] at hc'
      cases hc'
  rw [← List.singleton_append, ← List.append_assoc]
  exact not_infix_append hword hfront hb (Or.inl (by simp [hmark]))

end Words

/-! ## Foreign words -/

/-- Only one dialect numbers placeholders. -/
theorem isNumbered_eq_false {d : Dialect} (hd : d ≠ .postgres) : d.isNumbered = false := by
  cases d <;> first | rfl | exact absurd rfl hd

/-- The words of the optional features. -/
def featureWords : List String := ["RETURNING", "ILIKE", "NULLS", "FILTER"]

/-- The words of optional features are made of letters. -/
theorem featureWords_letters : ∀ word ∈ featureWords, word.toList.all isWordChar := by
  decide +kernel

/-- No common phrase or constant has a word of an optional feature. -/
theorem not_infix_common : ∀ words ∈ commonPhrases ++ constants, ∀ word ∈ featureWords,
    ¬ word.toList <:+: words.toList := by
  decide +kernel

/-- What a limit is written of, but for its numbers, has no word of an optional feature. -/
theorem not_infix_limit : ∀ words ∈ [" LIMIT ", " OFFSET ", "18446744073709551615", "-1"],
    ∀ word ∈ featureWords, ¬ word.toList <:+: words.toList := by
  decide +kernel

/-- A number has no word of an optional feature. -/
theorem not_infix_integerText (n : Int64) : ∀ word ∈ featureWords,
    ¬ word.toList <:+: (Sql.integerText n).toList := by
  have hdigits (m : Nat) (c : Char) (hc : c.isDigit = false) : c ∉ (toString m).toList := by
    intro hmem
    have hdigit : c.isDigit := by
      apply Nat.isDigit_of_mem_toDigits (b := 10) (n := m) (by omega) (by omega)
      simpa using hmem
    rw [hc] at hdigit
    cases hdigit
  have hnumber (c : Char) (hc : c.isDigit = false) (hminus : c ≠ '-') :
      c ∉ (Sql.integerText n).toList := by
    rw [Sql.integerText]
    cases n.toInt with
    | ofNat m => exact hdigits m c hc
    | negSucc m =>
      have htext : (toString (Int.negSucc m)).toList = '-' :: (toString (m + 1)).toList :=
        String.toList_append
      rw [htext, List.mem_cons, not_or]
      exact ⟨hminus, hdigits (m + 1) c hc⟩
  -- every one of the words has a letter `L` or `R`
  have hletter : ∀ word ∈ featureWords, 'L' ∈ word.toList ∨ 'R' ∈ word.toList := by
    decide
  intro word hword
  rcases hletter word hword with h | h
  · exact not_infix_of_not_mem h (hnumber 'L' (by decide) (by decide))
  · exact not_infix_of_not_mem h (hnumber 'R' (by decide) (by decide))

/-- No phrase of a dialect without optional features has one of their words. -/
theorem not_infix_of_isPhrase {d : Dialect} (hd : d ≠ .postgres) {words : String}
    (h : IsPhrase d words) : ∀ word ∈ featureWords, ¬ word.toList <:+: words.toList := by
  intro word hword
  have hletters := List.all_eq_true.mp (featureWords_letters word hword)
  have hlimit := not_infix_limit " LIMIT " (by decide) word hword
  have hoffset := not_infix_limit " OFFSET " (by decide) word hword
  -- the words of limits start and end with a blank, so the numbers stand apart from them
  have hpage {limit : String} (hnumber : ¬ word.toList <:+: limit.toList) (skip : Int64) :
      ¬ word.toList <:+:
        (" LIMIT " ++ limit ++ " OFFSET " ++ Sql.integerText skip).toList := by
    rw [String.toList_append, String.toList_append, String.toList_append]
    refine not_infix_append hletters (not_infix_append hletters
      (not_infix_append hletters hlimit hnumber (Or.inl (by decide))) hoffset
        (Or.inr (by decide))) (not_infix_integerText skip word hword) (Or.inl ?_)
    rw [List.getLast?_append_of_ne_nil _ (by decide)]
    decide
  cases h with
  | common h => exact not_infix_common words (List.mem_append_left _ h) word hword
  | feature f has h => cases d <;> first | exact absurd rfl hd | cases has
  | limit take =>
    rw [String.toList_append]
    exact not_infix_append hletters hlimit (not_infix_integerText take word hword)
      (Or.inl (by decide))
  | offset skip =>
    rw [String.toList_append]
    exact not_infix_append hletters hoffset (not_infix_integerText skip word hword)
      (Or.inl (by decide))
  | page take skip => exact hpage (not_infix_integerText take word hword) skip
  | unlimited hunlimited skip =>
    refine hpage (not_infix_limit _ ?_ word hword) skip
    cases d <;> simp only [Dialect.unlimited, Option.some.injEq, reduceCtorEq] at hunlimited <;>
      · subst hunlimited
        decide

/-! ## Fragments -/

namespace Fragment

variable {d : Dialect} {tight : Bool}

/-- The text of a fragment after the values `before`, outside of quoted names. -/
def outsideFrom (d : Dialect) (params before : List (ParamGroup × Value)) (f : Fragment) :
    List Char :=
  outsideOf d.quoteChar false (renderFrom d params before f).toList

/-- The quote of a dialect is not among plain characters. -/
theorem quoteChar_not_mem {words : List Char} (h : words.all isPlain) : d.quoteChar ∉ words := by
  intro hmem
  have hplain := List.all_eq_true.mp h _ hmem
  simp [isPlain, isQuote_quoteChar d] at hplain

theorem outsideFrom_text {words : String} (h : words.toList.all isPlain)
    (params before : List (ParamGroup × Value)) (rest : Fragment) :
    outsideFrom d params before (.text words :: rest) =
      words.toList ++ outsideFrom d params before rest := by
  rw [outsideFrom, renderFrom, String.toList_append, outsideOf_append (quoteChar_not_mem h)]
  rfl

theorem outsideFrom_name (identifier : String) (params before : List (ParamGroup × Value))
    (rest : Fragment) :
    ∃ quotes, (∀ c ∈ quotes, c = d.quoteChar) ∧
      outsideFrom d params before (.name identifier :: rest) =
        quotes ++ d.quoteChar :: outsideFrom d params before rest := by
  rw [outsideFrom, renderFrom, String.toList_append, Dialect.quote, String.toList_ofList]
  exact outsideOf_quoteChars d _ _

theorem outsideFrom_param (group : ParamGroup) (value : Value)
    (params before : List (ParamGroup × Value)) (rest : Fragment) :
    ∃ n, outsideFrom d params before (.param group value :: rest) =
      (d.placeholder n).toList ++ outsideFrom d params (before ++ [(group, value)]) rest := by
  refine ⟨number d.isNumbered params before group, ?_⟩
  rw [outsideFrom, renderFrom, String.toList_append, outsideOf_append]
  · rfl
  · -- a placeholder is made of its mark and digits, none of which is a quote
    have hdigits (n : Nat) : d.quoteChar ∉ (toString n).toList := by
      refine quoteChar_not_mem (List.all_eq_true.mpr fun c hc => ?_)
      exact isPlain_of_isDigit (List.all_eq_true.mp (all_isDigit_toString n) c hc)
    rw [toList_placeholder]
    split
    · rw [List.mem_cons, not_or]
      exact ⟨by cases d <;> decide, hdigits _⟩
    · cases d <;> decide

/-- A character that has no place in words, quotes and placeholders is not in the text. -/
theorem not_mem_outsideFrom {x : Char} (hplain : isPlain x = false) (hquote : x ≠ d.quoteChar)
    (hmark : ∀ n, x ∉ (d.placeholder n).toList) {f : Fragment} (h : Written d tight f)
    (params before : List (ParamGroup × Value)) : x ∉ outsideFrom d params before f := by
  induction f generalizing tight before with
  | nil => exact List.not_mem_nil
  | cons piece rest ih =>
    cases piece with
    | text words =>
      obtain ⟨hwords, -, hrest⟩ := h
      have hall := all_isPlain_of_isWritten hwords
      rw [outsideFrom_text hall, List.mem_append, not_or]
      refine ⟨fun hmem => ?_, ih hrest before⟩
      rw [List.all_eq_true.mp hall x hmem] at hplain
      cases hplain
    | name identifier =>
      obtain ⟨quotes, hquotes, htext⟩ := outsideFrom_name (d := d) identifier params before rest
      rw [htext, List.mem_append, List.mem_cons, not_or, not_or]
      exact ⟨fun hmem => hquote (hquotes x hmem), hquote, ih h before⟩
    | param group value =>
      obtain ⟨n, htext⟩ := outsideFrom_param (d := d) group value params before rest
      rw [htext, List.mem_append, not_or]
      exact ⟨hmark n, ih h _⟩

/-- The text of what may stand behind a letter or digit does not start with one. -/
theorem head_outsideFrom {f : Fragment} (h : Written d true f)
    (params before : List (ParamGroup × Value)) :
    (outsideFrom d params before f).head?.any isWordChar = false := by
  induction f with
  | nil => rfl
  | cons piece rest ih =>
    cases piece with
    | text words =>
      obtain ⟨hwords, hstart, hrest⟩ := h
      have hstart := hstart rfl
      rw [outsideFrom_text (all_isPlain_of_isWritten hwords)]
      rw [startsInWord] at hstart
      cases htext : words.toList with
      | nil =>
        -- an empty text leaves the end to what stands before it
        rw [endsInWord, htext] at hrest
        exact ih hrest
      | cons c text =>
        rw [htext] at hstart
        exact hstart
    | name identifier =>
      rw [outsideFrom, renderFrom, String.toList_append, Dialect.quote, String.toList_ofList,
        Dialect.quoteChars]
      cases d <;> rfl
    | param group value =>
      obtain ⟨n, htext⟩ := outsideFrom_param (d := d) group value params before rest
      rw [htext, toList_placeholder]
      cases d <;> rfl

/-- No word of an optional feature is in the text for a dialect that has none of them. -/
theorem not_infix_outsideFrom (hd : d ≠ .postgres) {word : String} (hword : word ∈ featureWords)
    {f : Fragment} (h : Written d tight f) (params before : List (ParamGroup × Value)) :
    ¬ word.toList <:+: outsideFrom d params before f := by
  have hletters := List.all_eq_true.mp (featureWords_letters word hword)
  induction f generalizing tight before with
  | nil =>
    have hsome : ∀ word ∈ featureWords, word.toList ≠ [] := by decide
    exact fun hpart => hsome word hword (List.infix_nil.mp hpart)
  | cons piece rest ih =>
    cases piece with
    | text words =>
      obtain ⟨hwords, -, hrest⟩ := h
      have hfront : ¬ word.toList <:+: words.toList :=
        hwords.elim (fun hphrase => not_infix_of_isPhrase hd hphrase word hword)
          fun hconstant => not_infix_common words (List.mem_append_right _ hconstant) word hword
      rw [outsideFrom_text (all_isPlain_of_isWritten hwords)]
      refine not_infix_append hletters hfront (ih hrest before) ?_
      -- either the words end apart, or what follows them starts apart
      cases hend : endsInWord words with
      | false => exact Or.inl hend
      | true =>
        rw [hend] at hrest
        exact Or.inr (head_outsideFrom hrest params before)
    | name identifier =>
      obtain ⟨quotes, hquotes, htext⟩ := outsideFrom_name (d := d) identifier params before rest
      have hquote : isWordChar d.quoteChar = false := by cases d <;> decide
      rw [htext]
      exact not_infix_marks_append hletters (fun c hc => hquotes c hc ▸ hquote) hquote (ih h before)
    | param group value =>
      obtain ⟨n, htext⟩ := outsideFrom_param (d := d) group value params before rest
      rw [htext, toList_placeholder, if_neg (by simp [isNumbered_eq_false hd])]
      have hnone : ∀ c ∈ ([] : List Char), isWordChar c = false :=
        fun c hc => absurd hc List.not_mem_nil
      exact not_infix_marks_append hletters hnone (by decide) (ih h _)

end Fragment

/-! ## Statements -/

/-- Whether the text of a statement outside of quoted names has no word and no placeholder that is
foreign to a dialect. -/
structure Statement.KeepsTo (d : Dialect) (s : Statement) : Prop where
  words : d ≠ .postgres → ∀ word ∈ featureWords, ¬ word.toList <:+: s.outside d
  unnumbered : d ≠ .postgres → '$' ∉ s.outside d
  numbered : d = .postgres → '?' ∉ s.outside d

open Fragment

namespace Statement

variable {d : Dialect}

/-- The text of a rendered fragment outside of quoted names. -/
theorem outside_ofFragment (d : Dialect) (returnsRows : Bool) (f : Fragment) :
    (ofFragment d returnsRows f).outside d = outsideFrom d f.params [] f := by
  rw [outside, outsideFrom, sql_ofFragment]

/-- The statement of what is written for a dialect keeps to it. -/
theorem keepsTo_ofFragment {f : Fragment} (h : Written d false f) (returnsRows : Bool) :
    (ofFragment d returnsRows f).KeepsTo d where
  words hd _ hword := by
    rw [outside_ofFragment]
    exact not_infix_outsideFrom hd hword h f.params []
  unnumbered hd := by
    rw [outside_ofFragment]
    refine not_mem_outsideFrom (by decide) (by cases d <;> decide) (fun n => ?_) h f.params []
    rw [toList_placeholder, if_neg (by simp [isNumbered_eq_false hd])]
    decide
  numbered hd := by
    subst hd
    rw [outside_ofFragment]
    refine not_mem_outsideFrom (by decide) (by decide) (fun n hmem => ?_) h f.params []
    rw [toList_placeholder, if_pos (by rfl), List.mem_cons] at hmem
    have hdigits := List.all_eq_true.mp (all_isDigit_toString n) '?'
    exact absurd (hdigits (hmem.resolve_left (by decide))) (by decide)

/-- Only the text of a statement matters. -/
theorem KeepsTo.of_sql_eq {s s' : Statement} (h : s'.KeepsTo d) (hsql : s.sql = s'.sql) :
    s.KeepsTo d := by
  have houtside : s.outside d = s'.outside d := by rw [outside, outside, hsql]
  refine ⟨fun hd => ?_, fun hd => ?_, fun hd => ?_⟩ <;> rw [houtside]
  · exact h.words hd
  · exact h.unnumbered hd
  · exact h.numbered hd

end Statement

end RelationalQuery
