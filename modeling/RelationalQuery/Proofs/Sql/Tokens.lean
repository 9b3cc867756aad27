import Mathlib.Data.List.SplitBy
import RelationalQuery.Proofs.Sql.Outside

/-!
# Tokens outside of names

What stands between the quoted names of a statement is cut into tokens: words, numbers, placeholders
and single marks. `IsLexed` lists what they can be, and nothing else stands there, whatever a query
asks for.

## Shape of the proof

A text is cut between two characters that do not belong together (`continues`), so it is cut piece by
piece where no piece runs on into the next one (`tokens_append`). Phrases are looked at one by one;
only the numbers of limits and placeholders take an argument.
-/

namespace RelationalQuery

open Sql

/-! ## Tokens -/

/-- The words of statements. -/
def vocabulary : List String :=
  ["AND", "AS", "ASC", "AVG", "BY", "CONFLICT", "COUNT", "DEFAULT", "DELETE", "DESC", "DO",
    "DUPLICATE", "EXISTS", "FILTER", "FIRST", "FROM", "GROUP", "IGNORE", "ILIKE", "IN", "INNER",
    "INSERT", "INTO", "IS", "JOIN", "KEY", "LAST", "LEFT", "LIKE", "LIMIT", "MAX", "MIN", "NOT",
    "NOTHING", "NULL", "NULLS", "OFFSET", "ON", "OR", "ORDER", "RETURNING", "SELECT", "SET", "SUM",
    "UPDATE", "VALUES", "WHERE"]

/-- The marks of statements. -/
def punctuation : List Char := [' ', '.', ',', '=', '<', '>', '(', ')', '*']

/-- Whether a text is a number without a sign. -/
def isNumeral (text : List Char) : Bool := !text.isEmpty && text.all Text.isDigit

/-- Whether a text is a number, possibly with a minus. -/
def isInteger : List Char → Bool
  | '-' :: digits => isNumeral digits
  | text => isNumeral text

/-- Whether a text is a word, a mark or a number of statements. -/
def isFixed (token : List Char) : Bool :=
  vocabulary.any (fun word => word.toList = token) || punctuation.any (fun mark => [mark] = token) ||
    isInteger token

/-- Whether a text is a placeholder of a dialect. -/
def isPlaceholder (d : Dialect) (token : List Char) : Bool :=
  if d.isNumbered then token.head? = some '$' && isNumeral token.tail else token = ['?']

/-- Whether a character may run on into the next one, as letters and digits do, and what stands in
front of a number. -/
def runsOn (c : Char) : Bool := isWordChar c || c = '$' || c = '-'

/-- Whether two characters side by side belong together. -/
def continues (a b : Char) : Bool := runsOn a && isWordChar b

/-- The tokens of a text: the runs of characters that belong together. -/
def tokens (text : List Char) : List (List Char) := text.splitBy continues

/-- Whether all tokens of a text have a property. -/
def HasTokens (P : List Char → Prop) (text : List Char) : Prop := ∀ token ∈ tokens text, P token

/-- Whether all tokens of a text are words, marks and numbers of statements, placeholders of a dialect
or its quotes. -/
def IsLexed (d : Dialect) : List Char → Prop :=
  HasTokens fun token => isFixed token ∨ isPlaceholder d token ∨ token = [d.quoteChar]

section Tokens

variable {P : List Char → Prop} {a b : List Char}

/-- A text is cut where a part of it does not run on into the next. -/
theorem tokens_append (h : ∀ x ∈ a.getLast?, ∀ y ∈ b.head?, continues x y = false) :
    tokens (a ++ b) = tokens a ++ tokens b :=
  List.splitBy_append h

/-- A run of characters is one token. -/
theorem tokens_of_isChain (hne : a ≠ []) (h : a.IsChain fun x y => continues x y) :
    tokens a = [a] :=
  List.splitBy_of_isChain hne h

theorem runsOn_of_isWordChar {c : Char} (h : isWordChar c) : runsOn c := by
  rw [runsOn, h]
  rfl

/-- Letters and digits run on. -/
theorem isChain_of_all {c : Char} (hc : runsOn c) (h : a.all isWordChar) :
    (c :: a).IsChain fun x y => continues x y := by
  induction a generalizing c with
  | nil => exact List.isChain_singleton c
  | cons x a ih =>
    rw [List.all_cons, Bool.and_eq_true] at h
    refine List.isChain_cons_cons.mpr ⟨?_, ih (runsOn_of_isWordChar h.1) h.2⟩
    rw [continues, hc, h.1]
    rfl

theorem HasTokens.nil : HasTokens P [] := fun _ h => absurd h List.not_mem_nil

theorem HasTokens.append (ha : HasTokens P a) (hb : HasTokens P b)
    (h : a.getLast?.all (!runsOn ·) ∨ b.head?.any isWordChar = false) : HasTokens P (a ++ b) := by
  have happart : tokens (a ++ b) = tokens a ++ tokens b := by
    rcases h with hend | hstart
    · refine tokens_append fun x hx y _ => ?_
      rw [Option.mem_def.mp hx, Option.all_some, Bool.not_eq_true'] at hend
      rw [continues, hend, Bool.false_and]
    · refine tokens_append fun x _ y hy => ?_
      rw [Option.mem_def.mp hy, Option.any_some] at hstart
      rw [continues, hstart, Bool.and_false]
  intro token htoken
  rw [happart, List.mem_append] at htoken
  exact htoken.elim (ha token) (hb token)

/-- A mark that does not run on is a token of its own. -/
theorem HasTokens.cons {c : Char} (hc : P [c]) (hstop : runsOn c = false) (hb : HasTokens P b) :
    HasTokens P (c :: b) := by
  have hsingle : HasTokens P [c] := fun token htoken => List.mem_singleton.mp htoken ▸ hc
  refine hsingle.append hb (Or.inl ?_)
  rw [List.getLast?_singleton, Option.all_some, hstop]
  rfl

end Tokens

/-! ## Numbers -/

/-- A digit belongs to a word or a number. -/
theorem isWordChar_of_isDigit {c : Char} (h : Text.isDigit c) : isWordChar c := by
  simp only [Text.isDigit, Bool.and_eq_true, decide_eq_true_eq, Char.le_def] at h
  simp only [isWordChar, Char.isAlphanum, Char.isDigit, Bool.or_eq_true, Bool.and_eq_true,
    decide_eq_true_eq]
  exact Or.inr h

/-- The text of a number is a numeral. -/
theorem isNumeral_toString (n : Nat) : isNumeral (toString n).toList := by
  rw [isNumeral, all_isDigit_toString, Bool.and_true, Bool.not_eq_true', List.isEmpty_eq_false_iff]
  exact toString_ne_nil n

/-- A numeral is one token, alone or behind a character that runs on into it. -/
theorem tokens_numeral {digits : List Char} (h : isNumeral digits) {c : Char} (hc : runsOn c) :
    tokens digits = [digits] ∧ tokens (c :: digits) = [c :: digits] := by
  rw [isNumeral, Bool.and_eq_true, Bool.not_eq_true', List.isEmpty_eq_false_iff] at h
  obtain ⟨hne, hall⟩ := h
  have hword : digits.all isWordChar :=
    List.all_eq_true.mpr fun x hx => isWordChar_of_isDigit (List.all_eq_true.mp hall x hx)
  refine ⟨?_, tokens_of_isChain (List.cons_ne_nil _ _) (isChain_of_all hc hword)⟩
  cases digits with
  | nil => exact absurd rfl hne
  | cons first rest =>
    rw [List.all_cons, Bool.and_eq_true] at hword
    exact tokens_of_isChain hne (isChain_of_all (runsOn_of_isWordChar hword.1) hword.2)

/-- The last character of a numeral is a digit. -/
theorem endsInWord_append_numeral {text digits : String} (h : isNumeral digits.toList) :
    endsInWord (text ++ digits) := by
  rw [isNumeral, Bool.and_eq_true, Bool.not_eq_true', List.isEmpty_eq_false_iff] at h
  rw [endsInWord, String.toList_append, List.getLast?_append_of_ne_nil _ h.1, Option.all_eq_true]
  exact fun x hx =>
    isWordChar_of_isDigit (List.all_eq_true.mp h.2 x (List.mem_of_getLast? hx))

/-- The text of an integer is one token, and ends with a digit. -/
theorem integerText_spec (n : Int64) : tokens (integerText n).toList = [(integerText n).toList] ∧
    isInteger (integerText n).toList ∧ ∀ text, endsInWord (text ++ integerText n) := by
  rw [integerText]
  cases n.toInt with
  | ofNat m =>
    have hnumeral : isNumeral (toString (Int.ofNat m)).toList := isNumeral_toString m
    refine ⟨(tokens_numeral hnumeral (c := '-') rfl).1, ?_,
      fun text => endsInWord_append_numeral hnumeral⟩
    unfold isInteger
    split
    · next digits heq =>
      -- a numeral does not start with a minus
      rw [heq] at hnumeral
      cases hnumeral
    · exact hnumeral
  | negSucc m =>
    have hnumeral := isNumeral_toString (m + 1)
    have htext : toString (Int.negSucc m) = "-" ++ toString (m + 1) := rfl
    rw [htext, String.toList_append]
    refine ⟨(tokens_numeral hnumeral rfl).2, hnumeral, fun text => ?_⟩
    rw [← String.append_assoc]
    exact endsInWord_append_numeral hnumeral

/-! ## Phrases -/

section Phrases

variable {d : Dialect} {words : String}

/-- Whether the end of a text does not run on, unless it is a letter or digit. -/
def endsApart (words : String) : Bool :=
  words.toList.getLast?.all fun c => isWordChar c || !runsOn c

/-- The words of all dialects are words, marks and numbers. -/
theorem isFixed_common : ∀ words ∈ commonPhrases ++ constants,
    (tokens words.toList).all isFixed ∧ endsApart words := by
  decide +kernel

/-- The words of a feature are words and marks. -/
theorem isFixed_feature (f : Feature) : ∀ words ∈ featurePhrases f,
    (tokens words.toList).all isFixed ∧ endsApart words := by
  cases f <;> decide +kernel

/-- The words around the numbers of a limit, and the numbers that stand for none. -/
theorem isFixed_limit : ∀ words ∈ [" LIMIT ", " OFFSET ", "18446744073709551615", "-1"],
    (tokens words.toList).all isFixed := by
  decide +kernel

theorem IsLexed.of_all {text : List Char} (h : (tokens text).all isFixed) : IsLexed d text :=
  fun token htoken => Or.inl (List.all_eq_true.mp h token htoken)

theorem isLexed_integerText (n : Int64) : IsLexed d (integerText n).toList := by
  obtain ⟨htokens, hinteger, -⟩ := integerText_spec n
  refine .of_all ?_
  rw [htokens, List.all_cons, isFixed, hinteger, Bool.or_true]
  rfl

/-- The words of a limit and an offset, around numbers that are tokens. -/
theorem isLexed_limit {limit : String} (h : IsLexed d limit.toList) (skip : Int64) :
    IsLexed d (" LIMIT " ++ limit ++ " OFFSET " ++ integerText skip).toList := by
  have hlimit : IsLexed d " LIMIT ".toList := .of_all (isFixed_limit _ (by decide))
  have hoffset : IsLexed d " OFFSET ".toList := .of_all (isFixed_limit _ (by decide))
  rw [String.toList_append, String.toList_append, String.toList_append]
  refine ((hlimit.append h (Or.inl (by decide))).append hoffset (Or.inr (by decide))).append
    (isLexed_integerText skip) (Or.inl ?_)
  rw [List.getLast?_append_of_ne_nil _ (by decide)]
  decide

/-- Phrases are made of words, marks and numbers. -/
theorem isLexed_of_isPhrase (h : IsPhrase d words) : IsLexed d words.toList := by
  cases h with
  | common h => exact .of_all (isFixed_common words (List.mem_append_left _ h)).1
  | feature f has h => exact .of_all (isFixed_feature f words h).1
  | limit take =>
    rw [String.toList_append]
    exact HasTokens.append (IsLexed.of_all (isFixed_limit _ (by decide))) (isLexed_integerText take)
      (Or.inl (by decide))
  | offset skip =>
    rw [String.toList_append]
    exact HasTokens.append (IsLexed.of_all (isFixed_limit _ (by decide))) (isLexed_integerText skip)
      (Or.inl (by decide))
  | page take skip => exact isLexed_limit (isLexed_integerText take) skip
  | unlimited hunlimited skip =>
    refine isLexed_limit (.of_all (isFixed_limit _ ?_)) skip
    cases d <;> simp only [Dialect.unlimited, Option.some.injEq, reduceCtorEq] at hunlimited <;>
      · subst hunlimited
        decide

/-- No phrase ends with what stands in front of a number. -/
theorem endsApart_of_isPhrase (h : IsPhrase d words) : endsApart words := by
  have hnumber {text : String} (hend : endsInWord text) : endsApart text := by
    rw [endsInWord, Option.all_eq_true] at hend
    rw [endsApart, Option.all_eq_true]
    exact fun c hc => by rw [hend c hc]; rfl
  cases h with
  | common h => exact (isFixed_common words (List.mem_append_left _ h)).2
  | feature f has h => exact (isFixed_feature f words h).2
  | limit take => exact hnumber ((integerText_spec take).2.2 _)
  | offset skip => exact hnumber ((integerText_spec skip).2.2 _)
  | page take skip => exact hnumber ((integerText_spec skip).2.2 _)
  | unlimited hunlimited skip => exact hnumber ((integerText_spec skip).2.2 _)

end Phrases

/-! ## Fragments -/

namespace Fragment

variable {d : Dialect} {tight : Bool} {P : List Char → Prop}

/-- Quotes are tokens of their own. -/
theorem hasTokens_quotes {quotes rest : List Char} (hquote : P [d.quoteChar])
    (h : ∀ c ∈ quotes, c = d.quoteChar) (hrest : HasTokens P rest) :
    HasTokens P (quotes ++ d.quoteChar :: rest) := by
  have hcons {rest : List Char} (hrest : HasTokens P rest) : HasTokens P (d.quoteChar :: rest) :=
    .cons hquote (by cases d <;> decide) hrest
  induction quotes with
  | nil => exact hcons hrest
  | cons c quotes ih =>
    obtain ⟨rfl, hquotes⟩ := List.forall_mem_cons.mp h
    exact hcons (ih hquotes)

/-- A placeholder is one token. -/
theorem tokens_placeholder (n : Nat) :
    tokens (d.placeholder n).toList = [(d.placeholder n).toList] := by
  rw [toList_placeholder]
  split
  · exact (tokens_numeral (isNumeral_toString n) rfl).2
  · decide

theorem isPlaceholder_placeholder (n : Nat) : isPlaceholder d (d.placeholder n).toList := by
  rw [toList_placeholder, isPlaceholder]
  split
  · exact isNumeral_toString n
  · decide

/-- The words of what is written end apart, unless with a letter or digit. -/
theorem endsApart_of_isWritten {words : String} (h : IsPhrase d words ∨ words ∈ constants) :
    endsApart words :=
  h.elim endsApart_of_isPhrase fun hconstant =>
    (isFixed_common words (List.mem_append_right _ hconstant)).2

/-- The tokens outside of names in what is written are those of its words, placeholders and
quotes. -/
theorem hasTokens_outsideFrom (hquote : P [d.quoteChar])
    (hplaceholder : ∀ n, P (d.placeholder n).toList) {f : Fragment} (h : Written d tight f)
    (hwords : ∀ words, .text words ∈ f → HasTokens P words.toList)
    (params before : List (ParamGroup × Value)) :
    HasTokens P (outsideFrom d params before f) := by
  induction f generalizing tight before with
  | nil => exact .nil
  | cons piece rest ih =>
    have hothers : ∀ words, .text words ∈ rest → HasTokens P words.toList :=
      fun words hmem => hwords words (List.mem_cons_of_mem _ hmem)
    cases piece with
    | text words =>
      obtain ⟨hwritten, -, hrest⟩ := h
      rw [outsideFrom_text (all_isPlain_of_isWritten hwritten)]
      refine (hwords words List.mem_cons_self).append (ih hrest hothers before) ?_
      -- either what follows starts apart, or the words do not run on
      cases hword : endsInWord words with
      | true =>
        rw [hword] at hrest
        exact Or.inr (head_outsideFrom hrest params before)
      | false =>
        have hend := endsApart_of_isWritten hwritten
        refine Or.inl ?_
        rw [endsInWord] at hword
        rw [endsApart] at hend
        cases hlast : words.toList.getLast? with
        | none => rfl
        | some c =>
          rw [hlast, Option.all_some] at hword hend
          rwa [hword, Bool.false_or] at hend
    | name identifier =>
      obtain ⟨quotes, hquotes, htext⟩ := outsideFrom_name (d := d) identifier params before rest
      rw [htext]
      exact hasTokens_quotes hquote hquotes (ih h hothers before)
    | param group value =>
      obtain ⟨n, htext⟩ := outsideFrom_param (d := d) group value params before rest
      rw [htext]
      refine HasTokens.append ?_ (ih h hothers _) (Or.inr (head_outsideFrom h params _))
      rw [HasTokens, tokens_placeholder]
      exact List.forall_mem_singleton.mpr (hplaceholder n)

/-- The words of what is written are phrases or constants. -/
theorem isWritten_of_mem {f : Fragment} (h : Written d tight f) {words : String}
    (hmem : .text words ∈ f) : IsPhrase d words ∨ words ∈ constants := by
  induction f generalizing tight with
  | nil => exact absurd hmem List.not_mem_nil
  | cons piece rest ih =>
    cases piece with
    | text first =>
      rcases List.mem_cons.mp hmem with heq | hmem
      · obtain rfl := Piece.text.inj heq
        exact h.1
      · exact ih h.2.2 hmem
    | name identifier => exact ih h ((List.mem_cons.mp hmem).resolve_left (by simp))
    | param group value => exact ih h ((List.mem_cons.mp hmem).resolve_left (by simp))

/-- The text of what is written is made of words, marks, numbers, placeholders and quotes. -/
theorem isLexed_outsideFrom {f : Fragment} (h : Written d tight f)
    (params before : List (ParamGroup × Value)) : IsLexed d (outsideFrom d params before f) := by
  refine hasTokens_outsideFrom (Or.inr (Or.inr rfl))
    (fun n => Or.inr (Or.inl (isPlaceholder_placeholder n))) h (fun words hmem => ?_) params before
  exact (isWritten_of_mem h hmem).elim isLexed_of_isPhrase fun hconstant =>
    IsLexed.of_all (isFixed_common words (List.mem_append_right _ hconstant)).1

end Fragment

end RelationalQuery
