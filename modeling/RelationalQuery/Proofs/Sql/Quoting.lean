import RelationalQuery.Proofs.Compile.Dialects
import RelationalQuery.Proofs.Sql.Spaced
import RelationalQuery.Proofs.Sql.Tokens

/-!
# Names stay in their quotes

Whatever the names of a schema and a query are, no statement lets one of them out of its quotes: a scan
for quotes ends outside of them, what stands outside is made of the tokens of statements, and a reader
of quoted names finds the names that were written, each as it was.

* `openAfter` — the scan that a count of placeholders performs, or one for the quotes of a dialect.
* `quotedNames` — the reader, to which a doubled quote is a quote of the name.
* `Statement.Quotes` — what is said of a statement, and `quotes_of_handsOut`, which proves it.

## Shape of the proof

All three read a rendered fragment piece by piece. The reader goes on behind a closing quote only if
no other quote follows, which is why fragments have to be `Spaced`.
-/

namespace RelationalQuery

/-! ## Open quotes -/

/-- The quote that is open behind a text, if one is. `opens` says which characters open quotes; the
same character closes them. -/
def openAfter (opens : Char → Bool) (quote : Option Char) : List Char → Option Char
  | [] => quote
  | c :: rest =>
    match quote with
    | some opening => openAfter opens (if c = opening then none else quote) rest
    | none => openAfter opens (if opens c then some c else none) rest

section Scan

variable {opens : Char → Bool} {q : Char}

/-- What opens no quotes is passed over. -/
theorem openAfter_append {words : List Char} (h : ∀ c ∈ words, opens c = false)
    (rest : List Char) : openAfter opens none (words ++ rest) = openAfter opens none rest := by
  induction words with
  | nil => rfl
  | cons c words ih =>
    obtain ⟨hc, hwords⟩ := List.forall_mem_cons.mp h
    rw [List.cons_append, openAfter, hc]
    exact ih hwords

/-- A name with doubled quotes is passed over up to the quote that closes it. -/
theorem openAfter_escaped (hq : opens q = true) (name rest : List Char) :
    openAfter opens (some q)
        (name.flatMap (fun c => if c = q then [c, c] else [c]) ++ q :: rest) =
      openAfter opens none rest := by
  induction name with
  | nil => simp [openAfter]
  | cons c name ih =>
    by_cases hc : c = q
    · -- a doubled quote closes the quotes and opens them again
      subst hc
      simpa [openAfter, hq] using ih
    · simpa [openAfter, hc] using ih

/-- No quote is open behind a quoted name. -/
theorem openAfter_quoteChars {d : Dialect} (hq : opens d.quoteChar = true)
    (name rest : List Char) :
    openAfter opens none (d.quoteChars name ++ rest) = openAfter opens none rest := by
  rw [Dialect.quoteChars, List.cons_append, List.append_assoc, openAfter, hq]
  exact openAfter_escaped hq name rest

end Scan

/-! ## A reader of names -/

/-- Where a reader of names stands: outside of quotes, in a name of which it has read some characters,
or behind a quote that closes the name unless another one follows. -/
inductive Reading
  | outside
  | inside (read : List Char)
  | closing (read : List Char)
  deriving DecidableEq, Repr

/-- The names in quotes in a text, where a doubled quote is a quote of the name. A name whose quotes
are not closed is none. -/
def quotedNames (q : Char) : Reading → List Char → List String
  | .outside, [] => []
  | .inside _, [] => []
  | .closing read, [] => [String.ofList read]
  | .outside, c :: rest => quotedNames q (if c = q then .inside [] else .outside) rest
  | .inside read, c :: rest =>
    quotedNames q (if c = q then .closing read else .inside (read ++ [c])) rest
  | .closing read, c :: rest =>
    if c = q then quotedNames q (.inside (read ++ [q])) rest
    else String.ofList read :: quotedNames q .outside rest

section Names

variable {q : Char}

/-- Words without quotes are passed over. -/
theorem quotedNames_append {words : List Char} (h : q ∉ words) (rest : List Char) :
    quotedNames q .outside (words ++ rest) = quotedNames q .outside rest := by
  induction words with
  | nil => rfl
  | cons c words ih =>
    rw [List.mem_cons, not_or] at h
    rw [List.cons_append, quotedNames, if_neg (Ne.symm h.1)]
    exact ih h.2

/-- A name is read up to the quote that closes it. -/
theorem quotedNames_escaped (read name rest : List Char) :
    quotedNames q (.inside read)
        (name.flatMap (fun c => if c = q then [c, c] else [c]) ++ q :: rest) =
      quotedNames q (.closing (read ++ name)) rest := by
  induction name generalizing read with
  | nil => simp [quotedNames]
  | cons c name ih =>
    by_cases hc : c = q
    · -- a doubled quote is one quote of the name
      subst hc
      simpa [quotedNames] using ih (read ++ [c])
    · simpa [quotedNames, hc] using ih (read ++ [c])

/-- A quote that no other one follows closes a name. -/
theorem quotedNames_closing {rest : List Char} (h : rest.head? ≠ some q) (read : List Char) :
    quotedNames q (.closing read) rest = String.ofList read :: quotedNames q .outside rest := by
  cases rest with
  | nil => rfl
  | cons c rest =>
    have hc : c ≠ q := fun heq => h (congrArg some heq)
    rw [quotedNames, if_neg hc, quotedNames, if_neg hc]

/-- A quoted name is read as it was written, unless another quote follows it. -/
theorem quotedNames_quoteChars {d : Dialect} {rest : List Char}
    (h : rest.head? ≠ some d.quoteChar) (name : List Char) :
    quotedNames d.quoteChar .outside (d.quoteChars name ++ rest) =
      String.ofList name :: quotedNames d.quoteChar .outside rest := by
  rw [Dialect.quoteChars, List.cons_append, List.append_assoc, quotedNames, if_pos rfl]
  exact (quotedNames_escaped [] name rest).trans (quotedNames_closing h name)

/-- Names with the same quoted text are the same. -/
theorem Dialect.quote_injective (d : Dialect) : Function.Injective d.quote := by
  intro a b h
  have hread (name : String) : quotedNames d.quoteChar .outside (d.quote name).toList = [name] := by
    have hnone : ([] : List Char).head? ≠ some d.quoteChar := by simp
    have hquoted := quotedNames_quoteChars hnone name.toList
    rw [List.append_nil] at hquoted
    rw [Dialect.quote, String.toList_ofList, hquoted, String.ofList_toList]
    rfl
  exact List.singleton_inj.mp ((hread a).symm.trans (h ▸ hread b))

end Names

/-! ## Rendered fragments -/

namespace Fragment

variable {d : Dialect} {tight named : Bool} {f : Fragment}

/-- The characters of a placeholder are no quotes. -/
theorem isQuote_of_mem_placeholder {n : Nat} {c : Char} (h : c ∈ (d.placeholder n).toList) :
    isQuote c = false := by
  have hplain {c : Char} (hc : isPlain c) : isQuote c = false := by
    rw [isPlain, Bool.and_eq_true, Bool.and_eq_true, Bool.not_eq_true'] at hc
    exact hc.1.1
  rw [toList_placeholder] at h
  split at h
  · rcases List.mem_cons.mp h with rfl | h
    · decide
    · exact hplain (isPlain_of_isDigit (List.all_eq_true.mp (all_isDigit_toString n) c h))
  · obtain rfl := List.mem_singleton.mp h
    decide

/-- The characters of what is written between names and values are no quotes. -/
theorem isQuote_of_isWritten {words : String} (h : IsPhrase d words ∨ words ∈ constants) {c : Char}
    (hc : c ∈ words.toList) : isQuote c = false := by
  have hplain := List.all_eq_true.mp (all_isPlain_of_isWritten h) c hc
  rw [isPlain, Bool.and_eq_true, Bool.and_eq_true, Bool.not_eq_true'] at hplain
  exact hplain.1.1

/-- No quote is open behind what is written, if names are in quotes that are opened. -/
theorem openAfter_renderFrom {opens : Char → Bool} (hopens : ∀ c, opens c → isQuote c)
    (hquote : opens d.quoteChar = true) (h : Written d tight f)
    (params before : List (ParamGroup × Value)) :
    openAfter opens none (renderFrom d params before f).toList = none := by
  have hpass {c : Char} (hc : isQuote c = false) : opens c = false :=
    Bool.eq_false_iff.mpr fun h => Bool.false_ne_true (hc.symm.trans (hopens c h))
  induction f generalizing tight before with
  | nil => rfl
  | cons piece rest ih =>
    cases piece with
    | text words =>
      obtain ⟨hwords, -, hrest⟩ := h
      rw [renderFrom, String.toList_append,
        openAfter_append fun c hc => hpass (isQuote_of_isWritten hwords hc)]
      exact ih hrest before
    | name identifier =>
      rw [renderFrom, String.toList_append, Dialect.quote, String.toList_ofList,
        openAfter_quoteChars hquote]
      exact ih h before
    | param group value =>
      rw [renderFrom, String.toList_append,
        openAfter_append fun c hc => hpass (isQuote_of_mem_placeholder hc)]
      exact ih h _

/-- What may stand behind a name does not start with a quote. -/
theorem head_renderFrom_of_spaced (h : Written d tight f) (hspaced : Spaced true f)
    (params before : List (ParamGroup × Value)) :
    (renderFrom d params before f).toList.head? ≠ some d.quoteChar := by
  have hfirst {a b : List Char} (hne : a ≠ []) (ha : ∀ c ∈ a, isQuote c = false) :
      (a ++ b).head? ≠ some d.quoteChar := by
    cases a with
    | nil => exact absurd rfl hne
    | cons c a =>
      intro heq
      have hc : c = d.quoteChar := Option.some.inj heq
      have hquote := ha c List.mem_cons_self
      rw [hc, isQuote_quoteChar] at hquote
      cases hquote
  cases f with
  | nil => exact fun h => by cases h
  | cons piece rest =>
    cases piece with
    | text words =>
      rw [renderFrom, String.toList_append]
      refine hfirst ?_ fun c hc => isQuote_of_isWritten h.1 hc
      -- neither a phrase nor a constant is empty
      intro hempty
      rcases h.1 with hphrase | hconstant
      · have hhead := head_isPhrase hphrase ['0']
        rw [hempty] at hhead
        cases hhead
      · have hconstants : ∀ words ∈ constants, words.toList ≠ [] := by decide
        exact hconstants words hconstant hempty
    | name identifier => cases hspaced.1
    | param group value =>
      rw [renderFrom, String.toList_append]
      refine hfirst ?_ fun c hc => isQuote_of_mem_placeholder hc
      rw [toList_placeholder]
      split <;> exact List.cons_ne_nil _ _

/-- The names that are read in what is written are those of the fragment. -/
theorem quotedNames_renderFrom (h : Written d tight f) (hspaced : Spaced named f)
    (params before : List (ParamGroup × Value)) :
    quotedNames d.quoteChar .outside (renderFrom d params before f).toList = f.names := by
  have hpass {words : List Char} (hwords : ∀ c ∈ words, isQuote c = false) :
      d.quoteChar ∉ words := fun hmem =>
    Bool.false_ne_true ((hwords _ hmem).symm.trans (isQuote_quoteChar d))
  induction f generalizing tight named before with
  | nil => rfl
  | cons piece rest ih =>
    cases piece with
    | text words =>
      obtain ⟨hwords, -, hrest⟩ := h
      rw [renderFrom, String.toList_append,
        quotedNames_append (hpass fun c hc => isQuote_of_isWritten hwords hc)]
      exact ih hrest hspaced before
    | name identifier =>
      have hhead := head_renderFrom_of_spaced (f := rest) h hspaced.2 params before
      rw [renderFrom, String.toList_append, Dialect.quote, String.toList_ofList,
        quotedNames_quoteChars hhead, String.ofList_toList, ih h hspaced.2, names]
    | param group value =>
      rw [renderFrom, String.toList_append,
        quotedNames_append (hpass fun c hc => isQuote_of_mem_placeholder hc)]
      exact ih h hspaced _

end Fragment

/-! ## Statements -/

/-- Whether names stay in their quotes in a statement: quotes are closed at its end, its text outside
of them is made of the tokens of statements, and the names that are read in it are the given ones. -/
structure Statement.Quotes (d : Dialect) (names : List String) (s : Statement) : Prop where
  /-- No quote is open at the end of a count of placeholders, which knows all kinds of quotes. -/
  closed : openAfter isQuote none s.sql.toList = none
  /-- No quote of the dialect is open at the end. -/
  closed_dialect : openAfter (· = d.quoteChar) none s.sql.toList = none
  outside : IsLexed d (s.outside d)
  names : quotedNames d.quoteChar .outside s.sql.toList = names
  injective : Function.Injective d.quote

open Fragment Compile

/-- The statement of what is written and spaced has its names in quotes. -/
theorem Statement.quotes_ofFragment {d : Dialect} {f : Fragment} (h : Written d false f)
    (hspaced : Spaced false f) {s : Statement} (hsql : s.sql = renderFrom d f.params [] f) :
    s.Quotes d f.names where
  closed := by
    rw [hsql]
    exact openAfter_renderFrom (fun _ => id) (isQuote_quoteChar d) h _ _
  closed_dialect := by
    rw [hsql]
    refine openAfter_renderFrom (fun c hc => ?_) (decide_eq_true rfl) h _ _
    exact of_decide_eq_true hc ▸ isQuote_quoteChar d
  outside := by
    rw [Statement.outside, hsql]
    exact isLexed_outsideFrom h f.params []
  names := by
    rw [hsql]
    exact quotedNames_renderFrom h hspaced _ _
  injective := d.quote_injective

/-- The tree of every plan is spaced. -/
theorem Compile.Plan.spaced_fragment {d : Dialect} (p : Plan) : Spaced false (p.fragment d) := by
  cases p with
  | read r => exact r.select.spaced_fragment
  | write w => exact w.spaced_fragment

namespace Compiler

/-- No statement that a compiler hands out lets a name out of its quotes. The names that are read in it
are those of the tree that it was rendered from. -/
theorem quotes_of_handsOut {k : Compiler} {q : Query} {s : Statement} (h : k.HandsOut q s) :
    ∃ p, k.Plans q p ∧ s.sql = (p.statement k.dialect).sql ∧
      s.Quotes k.dialect (p.fragment k.dialect).names := by
  obtain ⟨p, hplans, hsql⟩ := exists_plans_of_handsOut h
  refine ⟨p, hplans, hsql,
    Statement.quotes_ofFragment (written_of_plans hplans) p.spaced_fragment (hsql.trans ?_)⟩
  cases p with
  | read r => exact sql_ofFragment k.dialect true _
  | write w => exact sql_ofFragment k.dialect (w.returnsRows k.dialect) _

/-- Quotes in names are read back. -/
theorem quotes_oddNames :
    ∃ s, ({ dialect := .postgres } : Compiler).statement oddNames = .ok s ∧
      s.sql = "UPDATE \"a\"\"?$1\" SET \"c\"\"$\" = $1 WHERE \"b'?$2\" = $2 RETURNING *" ∧
      s.Quotes .postgres ["a\"?$1", "c\"$", "b'?$2"] := by
  have hs : ({ dialect := .postgres } : Compiler).statement oddNames = .ok _ := rfl
  obtain ⟨p, hplans, hsql, hquotes⟩ :=
    quotes_of_handsOut (k := { dialect := .postgres }) (q := oddNames) (.statement hs)
  exact ⟨_, hs, by decide, hquotes.closed, hquotes.closed_dialect, hquotes.outside, by decide,
    hquotes.injective⟩

end Compiler

end RelationalQuery
