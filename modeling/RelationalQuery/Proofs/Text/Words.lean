import Mathlib.Data.List.Basic
import RelationalQuery.Text.Words

/-!
# Where the words of a name start

`words` goes through a name with the beginning of a word and the case of its last letter as its
state, and forgets that case at the end of each word. Whether a word starts with a letter or digit
can be told without such a state, from what stands around it in the name: `startsWord` does, and
`flatMap_words` says that the words are those. It follows how a name is put in camel case, letter by
letter (`camelChars_eq`), and that no letter or digit is lost (`map_toLower_camelChars`).
-/

namespace RelationalQuery.Text

variable {c d : Char} {name run word after rest : List Char} {sofar : LetterCase}

/-! ## Letters -/

theorem isUpper_iff : c.isUpper ↔ 65 ≤ c.toNat ∧ c.toNat ≤ 90 := decide_eq_true_iff

theorem isLower_iff : c.isLower ↔ 97 ≤ c.toNat ∧ c.toNat ≤ 122 :=
  Bool.and_eq_true_iff.trans (and_congr decide_eq_true_iff decide_eq_true_iff)

theorem not_isUpper_of_isLower (h : c.isLower) : ¬ c.isUpper := by
  rw [isLower_iff] at h
  rw [isUpper_iff]
  omega

theorem toLower_of_not_isUpper (h : ¬ c.isUpper) : c.toLower = c :=
  dif_neg fun hupper => h (isUpper_iff.mpr hupper)

theorem toUpper_of_not_isLower (h : ¬ c.isLower) : c.toUpper = c :=
  dif_neg fun hlower => h (isLower_iff.mpr hlower)

theorem toNat_toLower (h : c.isUpper) : c.toLower.toNat = c.toNat + 32 := by
  have hrange := isUpper_iff.mp h
  have hlower : c.toLower = _ := dif_pos hrange
  have hsum : (c.val + ('a'.val - 'A'.val)).toNat = (c.toNat + 32) % 2 ^ 32 :=
    UInt32.toNat_add c.val ('a'.val - 'A'.val)
  rw [hlower, Char.toNat, hsum]
  omega

theorem toNat_toUpper (h : c.isLower) : c.toUpper.toNat = c.toNat - 32 := by
  have hrange := isLower_iff.mp h
  have hupper : c.toUpper = _ := dif_pos hrange
  -- the difference between the cases is negative, so that it is added modulo the size of a word
  have hsum : (c.val + ('A'.val - 'a'.val)).toNat = (c.toNat + (2 ^ 32 - 32)) % 2 ^ 32 :=
    UInt32.toNat_add c.val ('A'.val - 'a'.val)
  rw [hupper, Char.toNat, hsum]
  omega

theorem isLower_toLower (h : c.isUpper) : c.toLower.isLower := by
  rw [isLower_iff, toNat_toLower h]
  rw [isUpper_iff] at h
  omega

theorem isUpper_toUpper (h : c.isLower) : c.toUpper.isUpper := by
  rw [isUpper_iff, toNat_toUpper h]
  rw [isLower_iff] at h
  omega

theorem toLower_toLower (c : Char) : c.toLower.toLower = c.toLower := by
  by_cases h : c.isUpper
  · exact toLower_of_not_isUpper (not_isUpper_of_isLower (isLower_toLower h))
  · rw [toLower_of_not_isUpper h, toLower_of_not_isUpper h]

theorem toLower_toUpper (c : Char) : c.toUpper.toLower = c.toLower := by
  by_cases h : c.isLower
  · have hge := (isLower_iff.mp h).1
    rw [toLower_of_not_isUpper (not_isUpper_of_isLower h), ← Char.toNat_inj,
      toNat_toLower (isUpper_toUpper h), toNat_toUpper h]
    omega
  · rw [toUpper_of_not_isLower h]

theorem isAlphanum_toLower (h : c.isAlphanum) : c.toLower.isAlphanum := by
  by_cases hupper : c.isUpper
  · exact (Bool.or_eq_true _ _).mpr (.inl ((Bool.or_eq_true _ _).mpr (.inr (isLower_toLower hupper))))
  · rwa [toLower_of_not_isUpper hupper]

theorem isAlphanum_of_toLower (h : c.toLower.isAlphanum) : c.isAlphanum := by
  by_cases hupper : c.isUpper
  · exact (Bool.or_eq_true _ _).mpr (.inl ((Bool.or_eq_true _ _).mpr (.inl hupper)))
  · rwa [toLower_of_not_isUpper hupper] at h

/-! ## Places of letters -/

/-- Whether a word starts with the letter or digit `c`. `run` holds the letters and digits in front
of it back to the separator, the last one first. A word starts where the run does. Further on it
starts with an upper-case letter, if the letter in front of that one is in lower case or if a
lower-case letter follows; digits in front are passed over. -/
def startsWord (run : List Char) (c : Char) (after : List Char) : Bool :=
  run.isEmpty || (c.isUpper && (run.find? Char.isAlpha).any fun letter =>
    letter.isLower || after.head?.any Char.isLower)

/-- A letter or digit of a name, and whether a word starts with it. -/
structure Letter where
  char : Char
  starts : Bool
  deriving DecidableEq, Repr

namespace Letter

/-- The letters and digits of a word. -/
def ofWord : List Char → List Letter
  | [] => []
  | c :: rest => ⟨c, true⟩ :: rest.map (⟨·, false⟩)

/-- A letter of any word but the first in camel case. -/
def cased (letter : Letter) : Char :=
  if letter.starts then letter.char.toUpper else letter.char.toLower

end Letter

/-- The letters and digits of a name behind `run`. Any other character is a separator. -/
def lettersFrom (run : List Char) : List Char → List Letter
  | [] => []
  | c :: after =>
    if c.isAlphanum then ⟨c, startsWord run c after⟩ :: lettersFrom (c :: run) after
    else lettersFrom [] after

/-- Camel case: words are told by a capital where they start, the first one aside. -/
def camelOf : List Letter → List Char
  | [] => []
  | first :: others => first.char.toLower :: others.map Letter.cased

theorem Letter.ofWord_concat (word : List Char) (c : Char) :
    ofWord (word ++ [c]) = ofWord word ++ [⟨c, word.isEmpty⟩] := by
  cases word with
  | nil => rfl
  | cons first rest => simp [ofWord]

theorem lettersFrom_cons (hc : c.isAlphanum) (run after : List Char) :
    lettersFrom run (c :: after) = ⟨c, startsWord run c after⟩ :: lettersFrom (c :: run) after :=
  if_pos hc

theorem lettersFrom_separator (hc : c.isAlphanum = false) (run after : List Char) :
    lettersFrom run (c :: after) = lettersFrom [] after := by
  rw [lettersFrom, hc]
  rfl

/-! ## The case of the last letter -/

namespace LetterCase

theorem next_of_isLower (h : c.isLower) (sofar : LetterCase) : sofar.next c = lower := if_pos h

theorem next_of_isUpper (h : c.isUpper) (sofar : LetterCase) : sofar.next c = upper := by
  rw [next, if_neg fun hlower => not_isUpper_of_isLower hlower h, if_pos h]

theorem next_of_not_isAlpha (h : c.isAlpha = false) (sofar : LetterCase) :
    sofar.next c = sofar := by
  obtain ⟨hupper, hlower⟩ := (Bool.or_eq_false_iff).mp h
  rw [next, hlower, hupper]
  rfl

end LetterCase

/-- The case of the last letter of a run, which is given from its end. -/
def lastCase : List Char → LetterCase
  | [] => .unknown
  | c :: run => (lastCase run).next c

/-- The last letter of a run is of either case, if there is one. -/
theorem any_find?_isAlpha (run : List Char) (q : Bool) :
    (run.find? Char.isAlpha).any (fun letter => letter.isLower || q) = true ↔
      lastCase run = .lower ∨ lastCase run = .upper ∧ q = true := by
  induction run with
  | nil => simp [lastCase]
  | cons c run ih =>
    rw [List.find?_cons, lastCase]
    cases halpha : c.isAlpha with
    | false =>
      rw [LetterCase.next_of_not_isAlpha halpha]
      exact ih
    | true =>
      cases hlower : c.isLower with
      | true => simp [LetterCase.next_of_isLower hlower, hlower]
      | false =>
        have hupper : c.isUpper := by
          rcases (Bool.or_eq_true _ _).mp halpha with h | h
          · exact h
          · rw [hlower] at h
            cases h
        simp [LetterCase.next_of_isUpper hupper, hlower]

theorem startsWord_iff : startsWord run c after ↔
    run = [] ∨ c.isUpper ∧
      (lastCase run = .lower ∨ lastCase run = .upper ∧ after.head?.any Char.isLower) := by
  rw [startsWord, Bool.or_eq_true, Bool.and_eq_true, any_find?_isAlpha, List.isEmpty_iff]

/-! ## Words of one run -/

/-- What holds where `caseWords` comes to `c`, with `run` behind it and `word` and `sofar` as its
state. -/
structure Reading (run word : List Char) (sofar : LetterCase) (c : Char) : Prop where
  /-- Between two words, the next one has been seen to start. -/
  between : word = [] → run = [] ∨ c.isUpper ∧ lastCase run = .lower
  /-- A rise from lower to upper case would have ended the word. -/
  inside : word ≠ [] → run ≠ [] ∧ ¬ (c.isUpper ∧ lastCase run = .lower)
  /-- Where the case of the last letter has been forgotten, it makes no difference. -/
  sofar_eq : sofar = lastCase run ∨ c.isLower ∨
    c.isUpper ∧ sofar ≠ .upper ∧ lastCase run = .lower

namespace Reading

theorem start (c : Char) : Reading [] [] .unknown c :=
  ⟨fun _ => .inl rfl, fun h => absurd rfl h, .inl rfl⟩

/-- A word ends in front of a rise. -/
theorem rise (hlast : lastCase run = .lower) (hd : d.isUpper) : Reading run [] .unknown d :=
  ⟨fun _ => .inr ⟨hd, hlast⟩, fun h => absurd rfl h, .inr (.inr ⟨hd, by decide, hlast⟩)⟩

/-- A word starts with the last one of several capitals. -/
theorem fall (hd : d.isLower) : Reading (c :: run) [c] .unknown d :=
  ⟨fun hnil => absurd hnil (List.cons_ne_nil _ _),
    fun _ => ⟨List.cons_ne_nil _ _, fun h => not_isUpper_of_isLower hd h.1⟩, .inr (.inl hd)⟩

/-- A word goes on where there is no rise. -/
theorem extend (h : ¬ (lastCase (c :: run) = .lower ∧ d.isUpper)) :
    Reading (c :: run) (c :: word) (lastCase (c :: run)) d :=
  ⟨fun hnil => absurd hnil (List.cons_ne_nil _ _),
    fun _ => ⟨List.cons_ne_nil _ _, fun hd => h hd.symm⟩, .inl rfl⟩

variable (h : Reading run word sofar c)

include h

theorem next_eq : sofar.next c = lastCase (c :: run) := by
  rcases h.sofar_eq with heq | hlower | ⟨hupper, -, -⟩
  · rw [heq, lastCase]
  · rw [lastCase, LetterCase.next_of_isLower hlower, LetterCase.next_of_isLower hlower]
  · rw [lastCase, LetterCase.next_of_isUpper hupper, LetterCase.next_of_isUpper hupper]

theorem sofar_eq_upper_iff (hc : c.isUpper) : sofar = .upper ↔ lastCase run = .upper := by
  rcases h.sofar_eq with heq | hlower | ⟨-, hsofar, hlast⟩
  · rw [heq]
  · exact absurd hc (not_isUpper_of_isLower hlower)
  · have hlower : lastCase run ≠ .upper := by
      rw [hlast]
      decide
    exact iff_of_false hsofar hlower

/-- A word starts here where none is being read, and with the last one of several capitals. -/
theorem startsWord_iff_of_reading : startsWord run c after ↔
    word = [] ∨ sofar = .upper ∧ c.isUpper ∧ after.head?.any Char.isLower := by
  rw [startsWord_iff]
  constructor
  · rintro (hrun | ⟨hc, hlast | ⟨hlast, hafter⟩⟩)
    · exact .inl (by_contra fun hword => (h.inside hword).1 hrun)
    · exact .inl (by_contra fun hword => (h.inside hword).2 ⟨hc, hlast⟩)
    · exact .inr ⟨(h.sofar_eq_upper_iff hc).mpr hlast, hc, hafter⟩
  · rintro (hword | ⟨hsofar, hc, hafter⟩)
    · exact (h.between hword).imp_right fun hrise => ⟨hrise.1, .inl hrise.2⟩
    · exact .inr ⟨hc, .inr ⟨(h.sofar_eq_upper_iff hc).mp hsofar, hafter⟩⟩

/-- Where no capital ends an acronym, the next character goes on with the word being read. -/
theorem ofWord_reverse_cons
    (hfall : ¬ (sofar = .upper ∧ c.isUpper ∧ after.head?.any Char.isLower)) :
    Letter.ofWord (c :: word).reverse =
      Letter.ofWord word.reverse ++ [⟨c, startsWord run c after⟩] := by
  have hstarts : startsWord run c after = word.isEmpty := by
    rw [Bool.eq_iff_iff, h.startsWord_iff_of_reading, or_iff_left hfall, List.isEmpty_iff]
  rw [List.reverse_cons, Letter.ofWord_concat, hstarts, List.isEmpty_reverse]

/-- The words of a run start where `startsWord` says. -/
theorem flatMap_caseWords (hall : (c :: after).all Char.isAlphanum) :
    (caseWords word sofar (c :: after)).flatMap Letter.ofWord =
      Letter.ofWord word.reverse ++ lettersFrom run (c :: after) := by
  induction after generalizing c run word sofar with
  | nil =>
    have hc : c.isAlphanum := by simpa using hall
    have hnofall : ¬ (sofar = .upper ∧ c.isUpper ∧ ([] : List Char).head?.any Char.isLower) :=
      fun hfall => Bool.false_ne_true hfall.2.2
    rw [caseWords, List.flatMap_cons, List.flatMap_nil, List.append_nil,
      h.ofWord_reverse_cons hnofall, lettersFrom_cons hc]
    rfl
  | cons d rest ih =>
    obtain ⟨hc, hrest⟩ := (Bool.and_eq_true _ _).mp hall
    rw [caseWords, lettersFrom_cons hc, h.next_eq]
    -- The word ends behind `c`, or in front of it, or goes on: the next state is a `Reading` again.
    split_ifs with hrise hfall
    · have hnofall : ¬ (sofar = .upper ∧ c.isUpper ∧ (d :: rest).head?.any Char.isLower) :=
        fun hfall => not_isUpper_of_isLower hfall.2.2 hrise.2
      rw [List.flatMap_cons, ih (rise hrise.1 hrise.2) hrest, h.ofWord_reverse_cons hnofall,
        List.append_assoc]
      rfl
    · have hstarts : startsWord run c (d :: rest) = true :=
        h.startsWord_iff_of_reading.mpr (.inr hfall)
      rw [List.flatMap_cons, ih (fall hfall.2.2) hrest, hstarts]
      rfl
    · have hnofall : ¬ (sofar = .upper ∧ c.isUpper ∧ (d :: rest).head?.any Char.isLower) := hfall
      rw [ih (extend hrise) hrest, h.ofWord_reverse_cons hnofall, List.append_assoc]
      rfl

end Reading

/-- The words of a whole run start where `startsWord` says. -/
theorem flatMap_caseWords_nil (hrun : run.all Char.isAlphanum) :
    (caseWords [] .unknown run).flatMap Letter.ofWord = lettersFrom [] run := by
  cases run with
  | nil => rfl
  | cons c after => exact (Reading.start c).flatMap_caseWords hrun

/-- A run is cut into words that hold something. -/
theorem ne_nil_of_mem_caseWords {w : List Char} (hsofar : sofar = .upper → word ≠ [])
    (h : w ∈ caseWords word sofar rest) : w ≠ [] := by
  fun_induction caseWords word sofar rest with
  | case1 word sofar hword => cases h
  | case2 word sofar hword =>
    rw [List.mem_singleton.mp h]
    simpa using hword
  | case3 word sofar c =>
    rw [List.mem_singleton.mp h]
    simp
  | case4 word sofar c d rest hrise ih =>
    rcases List.mem_cons.mp h with rfl | h
    · simp
    · exact ih (fun hupper => absurd hupper (by decide)) h
  | case5 word sofar c d rest hrise hfall ih =>
    rcases List.mem_cons.mp h with rfl | h
    · simpa using hsofar hfall.1
    · exact ih (fun _ => List.cons_ne_nil _ _) h
  | case6 word sofar c d rest hrise hfall ih => exact ih (fun _ => List.cons_ne_nil _ _) h

/-! ## Words of a name -/

theorem runs_separator (hc : c.isAlphanum = false) (rest : List Char) :
    runs (c :: rest) = [] :: runs rest := by
  rw [runs, hc]
  rfl

theorem runs_cons {first : List Char} {others : List (List Char)} (hc : c.isAlphanum)
    (h : runs rest = first :: others) : runs (c :: rest) = (c :: first) :: others := by
  rw [runs, if_pos hc, h]

/-- A name starts with its first run, which is empty in front of a separator. Behind it each run
stands on its own. -/
theorem exists_runs (name : List Char) : ∃ first others, runs name = first :: others ∧
    (∀ r ∈ runs name, r.all Char.isAlphanum) ∧
    first.head?.any Char.isLower = name.head?.any Char.isLower ∧
    ∀ run, lettersFrom run name = lettersFrom run first ++ others.flatMap (lettersFrom []) := by
  induction name with
  | nil => exact ⟨[], [], rfl, by simp [runs], rfl, fun run => rfl⟩
  | cons c rest ih =>
    obtain ⟨first, others, hruns, hall, hhead, hletters⟩ := ih
    cases hc : c.isAlphanum with
    | true =>
      have hcons := runs_cons hc hruns
      rw [hruns] at hall
      refine ⟨c :: first, others, hcons, ?_, rfl, fun run => ?_⟩
      · rw [hcons]
        intro r hr
        rcases List.mem_cons.mp hr with rfl | hr
        · rw [List.all_cons, hc, hall first List.mem_cons_self]
          rfl
        · exact hall r (List.mem_cons_of_mem _ hr)
      · rw [lettersFrom_cons hc, lettersFrom_cons hc, hletters, startsWord, startsWord, hhead]
        rfl
    | false =>
      refine ⟨[], runs rest, runs_separator hc rest, ?_, ?_, fun run => ?_⟩
      · rw [runs_separator hc]
        intro r hr
        rcases List.mem_cons.mp hr with rfl | hr
        · rfl
        · exact hall r hr
      · have hlower : c.isLower = false := by
          have halpha := ((Bool.or_eq_false_iff).mp hc).1
          exact ((Bool.or_eq_false_iff).mp halpha).2
        exact hlower.symm
      · rw [lettersFrom_separator hc, hletters, hruns]
        rfl

/-- The words of a name start behind separators and where the case changes, and hold all its letters
and digits. -/
theorem flatMap_words (name : List Char) :
    (words name).flatMap Letter.ofWord = lettersFrom [] name := by
  obtain ⟨first, others, hruns, hall, -, hletters⟩ := exists_runs name
  have hwords : (runs name).flatMap (fun r => (caseWords [] .unknown r).flatMap Letter.ofWord) =
      (runs name).flatMap (lettersFrom []) :=
    List.flatMap_congr fun r hr => flatMap_caseWords_nil (hall r hr)
  rw [words, List.flatMap_assoc, hwords, hletters, hruns, List.flatMap_cons]

example : (lettersFrom [] "XML1Http_2a".toList).filter (·.starts) =
    [⟨'X', true⟩, ⟨'H', true⟩, ⟨'2', true⟩] := by decide +kernel

theorem ne_nil_of_mem_words {w : List Char} (h : w ∈ words name) : w ≠ [] := by
  obtain ⟨r, -, hr⟩ := List.mem_flatMap.mp h
  have hunknown : LetterCase.unknown = .upper → [] ≠ ([] : List Char) :=
    fun hupper => absurd hupper (by decide)
  exact ne_nil_of_mem_caseWords hunknown hr

/-! ## Camel case -/

theorem map_cased_ofWord (word : List Char) :
    (Letter.ofWord word).map Letter.cased = capitalize word := by
  cases word with
  | nil => rfl
  | cons c rest => simp [Letter.ofWord, Letter.cased, capitalize]

/-- A name in camel case, letter by letter. -/
theorem camelChars_eq (name : List Char) : camelChars name = camelOf (lettersFrom [] name) := by
  rw [← flatMap_words, camelChars]
  cases hwords : words name with
  | nil => rfl
  | cons first others =>
    cases first with
    | nil => exact absurd rfl (ne_nil_of_mem_words (hwords ▸ List.mem_cons_self))
    | cons c rest =>
      have hfirst : (rest.map (Letter.mk · false)).map Letter.cased = rest.map Char.toLower := by
        rw [List.map_map]
        rfl
      have hothers : (others.flatMap Letter.ofWord).map Letter.cased =
          others.flatMap capitalize := by
        rw [List.map_flatMap]
        exact List.flatMap_congr fun word _ => map_cased_ofWord word
      rw [List.flatMap_cons, Letter.ofWord, List.cons_append, camelOf, List.map_append, hfirst,
        hothers]
      rfl

theorem map_char_lettersFrom (run name : List Char) :
    (lettersFrom run name).map Letter.char = name.filter Char.isAlphanum := by
  induction name generalizing run with
  | nil => rfl
  | cons c rest ih =>
    cases hc : c.isAlphanum with
    | true => rw [lettersFrom_cons hc, List.map_cons, ih, List.filter_cons_of_pos hc]
    | false =>
      rw [lettersFrom_separator hc, ih, List.filter_cons_of_neg (Bool.not_eq_true _ ▸ hc)]

theorem map_toLower_camelOf (letters : List Letter) :
    (camelOf letters).map Char.toLower = letters.map fun letter => letter.char.toLower := by
  have hcased (letter : Letter) : letter.cased.toLower = letter.char.toLower := by
    rw [Letter.cased]
    split
    · exact toLower_toUpper _
    · exact toLower_toLower _
  cases letters with
  | nil => rfl
  | cons first others =>
    rw [camelOf, List.map_cons, List.map_cons, toLower_toLower, List.map_map]
    exact congrArg _ (List.map_congr_left fun letter _ => hcased letter)

/-- Camel case keeps all letters and digits up to their case, and nothing else. -/
theorem map_toLower_camelChars (name : List Char) :
    (camelChars name).map Char.toLower = (name.filter Char.isAlphanum).map Char.toLower := by
  rw [camelChars_eq, map_toLower_camelOf, ← map_char_lettersFrom [], List.map_map]
  rfl

theorem all_camelChars (name : List Char) : (camelChars name).all Char.isAlphanum := by
  rw [List.all_eq_true]
  intro c hc
  have hlower : c.toLower ∈ (name.filter Char.isAlphanum).map Char.toLower := by
    rw [← map_toLower_camelChars]
    exact List.mem_map_of_mem hc
  obtain ⟨kept, hkept, heq⟩ := List.mem_map.mp hlower
  exact isAlphanum_of_toLower (heq ▸ isAlphanum_toLower (List.mem_filter.mp hkept).2)

end RelationalQuery.Text
