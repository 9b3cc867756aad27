import Mathlib.Data.Finset.Card
import Mathlib.Data.Nat.Find
import Mathlib.Tactic.ByContra
import RelationalQuery.Proofs.Compile.Scopes

/-!
# Drawing names

The names of a statement are marked as used one after the other: some are reserved as they are, and
for others a fresh name is drawn from a base. The search for a fresh name tries one candidate after
the other and has no bound of its own. It ends all the same, since no two candidates are the same
and each one that it passes is among the used names.

* `searches_iff` — the search stops at the first candidate that is free.
* `exists_searches` — it stops, whatever names are used.
* `freshName_of_searches` — a fresh name is the candidate at which it stops.
* `drawn_fresh` — over any sequence of calls, each name that is drawn is new to all names before it.
-/

namespace RelationalQuery.Compile

variable {used : List String} {base : String} {m n : Nat}

/-! ## The search -/

/-- The search for a free candidate, one after the other: begun at candidate `m` it stops at
candidate `n`. Nothing but the used names makes it stop. -/
inductive Searches (used : List String) (base : String) : Nat → Nat → Prop
  | stop {n : Nat} (free : candidate base n ∉ used) : Searches used base n n
  | next {m n : Nat} (taken : candidate base m ∈ used) (rest : Searches used base (m + 1) n) :
    Searches used base m n

/-- The search stops at the first free candidate from its start on, and nowhere else. -/
theorem searches_iff :
    Searches used base m n ↔
      m ≤ n ∧ candidate base n ∉ used ∧ ∀ k, m ≤ k → k < n → candidate base k ∈ used := by
  constructor
  · intro h
    induction h with
    | stop free => exact ⟨Nat.le_refl _, free, fun k hmk hkn => by omega⟩
    | next taken rest ih =>
      obtain ⟨hle, hfree, htaken⟩ := ih
      refine ⟨by omega, hfree, fun k hmk hkn => ?_⟩
      rcases Nat.eq_or_lt_of_le hmk with rfl | hlt
      · exact taken
      · exact htaken k hlt hkn
  · rintro ⟨hle, hfree, htaken⟩
    -- on the number of candidates that are passed
    induction hsteps : n - m generalizing m with
    | zero =>
      obtain rfl : m = n := by omega
      exact .stop hfree
    | succ steps ih =>
      have hrest : Searches used base (m + 1) n :=
        ih (by omega) (fun k hmk hkn => htaken k (by omega) hkn) (by omega)
      exact .next (htaken m (Nat.le_refl m) (by omega)) hrest

/-- As many candidates can be used as there are used names. -/
theorem le_card_of_taken (htaken : ∀ k, k < n → candidate base k ∈ used) :
    n ≤ used.toFinset.card := by
  have hsubset : (Finset.range n).image (candidate base) ⊆ used.toFinset := by
    intro name hname
    obtain ⟨k, hk, rfl⟩ := Finset.mem_image.mp hname
    exact List.mem_toFinset.mpr (htaken k (Finset.mem_range.mp hk))
  calc n = ((Finset.range n).image (candidate base)).card := by
        rw [Finset.card_image_of_injective _ fun _ _ h => candidate_injective h, Finset.card_range]
    _ ≤ used.toFinset.card := Finset.card_le_card hsubset

/-- The search stops, whatever names are used. -/
theorem exists_searches (used : List String) (base : String) : ∃ n, Searches used base 0 n := by
  have hfree : ∃ n, candidate base n ∉ used := by
    by_contra hall
    have htaken (k : Nat) : candidate base k ∈ used := not_not.mp (not_exists.mp hall k)
    have hle := le_card_of_taken (n := used.toFinset.card + 1) fun k _ => htaken k
    omega
  refine ⟨Nat.find hfree, searches_iff.mpr ⟨Nat.zero_le _, Nat.find_spec hfree, fun k _ hk => ?_⟩⟩
  exact not_not.mp (Nat.find_min hfree hk)

/-- A search from the first candidate on passes no more candidates than there are used names. -/
theorem Searches.le_card (h : Searches used base 0 n) : n ≤ used.toFinset.card :=
  le_card_of_taken fun k hk => (searches_iff.mp h).2.2 k (Nat.zero_le k) hk

/-- A fresh name is the candidate at which the search stops. -/
theorem freshName_of_searches (h : Searches used base 0 n) :
    freshName used base = candidate base n := by
  obtain ⟨-, hfree, htaken⟩ := searches_iff.mp h
  have hn : n < used.length + 1 := Nat.lt_succ_of_le (h.le_card.trans used.toFinset_card_le)
  have hfind : (List.range (used.length + 1)).find? (fun k => !used.contains (candidate base k)) =
      some n := by
    rw [List.find?_range_eq_some]
    refine ⟨by simpa using hfree, List.mem_range.mpr hn, fun k hk => ?_⟩
    simpa using htaken k (Nat.zero_le k) hk
  rw [freshName, hfind]

/-- The name that is drawn after a number of steps: the base itself if it is free, and else the base
with the least number from one on under which it is. -/
inductive Drawn (used : List String) (base : String) : Nat → String → Prop
  | bare (free : base ∉ used) : Drawn used base 0 base
  | numbered {n : Nat} (taken : base ∈ used) (positive : 1 ≤ n) (free : s!"{base}_{n}" ∉ used)
    (least : ∀ k, 1 ≤ k → k < n → s!"{base}_{k}" ∈ used) :
    Drawn used base n s!"{base}_{n}"

/-- The candidate at which a search stops is the name that is drawn. -/
theorem Searches.drawn (h : Searches used base 0 n) : Drawn used base n (candidate base n) := by
  obtain ⟨-, hfree, htaken⟩ := searches_iff.mp h
  have hnumbered {k : Nat} (hk : 1 ≤ k) : candidate base k = s!"{base}_{k}" := if_neg (by omega)
  rcases Nat.eq_zero_or_pos n with rfl | hpos
  · exact .bare hfree
  · rw [hnumbered hpos] at hfree ⊢
    refine .numbered (htaken 0 (Nat.le_refl 0) hpos) hpos hfree fun k hk hkn => ?_
    rw [← hnumbered hk]
    exact htaken k (Nat.zero_le k) hkn

/-! ## Sequences of calls -/

/-- A call that marks a name as used. -/
inductive NameCall
  | reserve (name : String)
  | allocate (base : String)

/-- Makes a call, and tells which name it marks as used. -/
def NameCall.perform : NameCall → Naming String
  | .reserve name => do
    Compile.reserve name
    return name
  | .allocate base => Compile.allocate base

/-- The name that a call marks where others are used: the one that is reserved, or a fresh one, after
a search that passes no more candidates than there are used names. -/
inductive NameCall.Marks (used : List String) : NameCall → String → Prop
  | reserve (name : String) : Marks used (.reserve name) name
  | allocate {base name : String} {steps : Nat} (search : Searches used base 0 steps)
    (bounded : steps ≤ used.toFinset.card) (drawn : Drawn used base steps name)
    (fresh : name ∉ used) : Marks used (.allocate base) name

/-- A call marks one name, and nothing else changes. -/
theorem NameCall.exists_marks (call : NameCall) (used : List String) :
    ∃ name, call.perform used = .ok (name, name :: used) ∧ call.Marks used name := by
  cases call with
  | reserve name => exact ⟨name, rfl, .reserve name⟩
  | allocate base =>
    obtain ⟨n, hn⟩ := exists_searches used base
    have hname := freshName_of_searches hn
    have hdrawn : Drawn used base n (freshName used base) := hname ▸ hn.drawn
    exact ⟨freshName used base, allocate_run_eq_ok_iff.mpr ⟨rfl, rfl⟩,
      .allocate hn hn.le_card hdrawn (freshName_notMem used base)⟩

/-- A sequence of calls marks one name for each call, where the names before it are used. -/
theorem exists_marks_of_calls (calls : List NameCall) (start : List String) :
    ∃ names, calls.mapM NameCall.perform start = .ok (names, names.reverse ++ start) ∧
      ∀ (i : Nat) (call : NameCall), calls[i]? = some call →
        ∃ name, names[i]? = some name ∧ call.Marks ((names.take i).reverse ++ start) name := by
  induction calls generalizing start with
  | nil => exact ⟨[], rfl, fun i call h => by simp at h⟩
  | cons first rest ih =>
    obtain ⟨name, hfirst, hname⟩ := first.exists_marks start
    obtain ⟨names, hrest, hnames⟩ := ih (name :: start)
    refine ⟨name :: names, ?_, fun i call h => ?_⟩
    · rw [List.mapM_cons, bind_run_eq_ok_iff]
      refine ⟨name, name :: start, hfirst, ?_⟩
      rw [bind_run_eq_ok_iff]
      refine ⟨names, _, hrest, ?_⟩
      rw [pure_run_eq_ok_iff, List.reverse_cons, List.append_assoc, List.singleton_append]
      exact ⟨rfl, rfl⟩
    · cases i with
      | zero =>
        obtain rfl : first = call := by simpa using h
        exact ⟨name, rfl, hname⟩
      | succ i =>
        obtain ⟨later, hlater, hmarks⟩ := hnames i call h
        refine ⟨later, hlater, ?_⟩
        rw [List.take_succ_cons, List.reverse_cons, List.append_assoc, List.singleton_append]
        exact hmarks

/-- **Names that are drawn are fresh.** However names are reserved and drawn, and whatever names are
used at the start, every call succeeds and marks one name. A drawn name is the first free candidate
for its base, found after at most as many steps as there are used names, and it is new to all names
that were used at the start and to all that were reserved or drawn before it. -/
theorem drawn_fresh (calls : List NameCall) (start : List String) :
    ∃ names, calls.mapM NameCall.perform start = .ok (names, names.reverse ++ start) ∧
      (∀ (i : Nat) (call : NameCall), calls[i]? = some call →
        ∃ name, names[i]? = some name ∧ call.Marks ((names.take i).reverse ++ start) name) ∧
      ∀ (j : Nat) (base name : String), calls[j]? = some (.allocate base) →
        names[j]? = some name → name ∉ start ∧ ∀ i, i < j → names[i]? ≠ some name := by
  obtain ⟨names, hrun, hmarks⟩ := exists_marks_of_calls calls start
  refine ⟨names, hrun, hmarks, fun j base name hcall hname => ?_⟩
  obtain ⟨marked, hmarked, hmarks⟩ := hmarks j _ hcall
  obtain rfl : marked = name := Option.some.inj (hmarked.symm.trans hname)
  cases hmarks with
  | allocate search bounded drawn fresh =>
    rw [List.mem_append, List.mem_reverse, not_or] at fresh
    refine ⟨fresh.2, fun i hij hi => fresh.1 ?_⟩
    have htake : (names.take j)[i]? = some marked := by rw [List.getElem?_take_of_lt hij, hi]
    exact List.mem_of_getElem? htake

/-- Calls on bases that look like numbered names themselves. -/
def numberedCalls : List NameCall :=
  [.reserve "sub_x", .reserve "sub_x_1", .allocate "sub_x", .allocate "sub_x_1", .allocate "sub_x"]

/-- The third name drawn here avoids the one before it, whose base looks like a numbered name. -/
theorem drawn_fresh_numberedCalls :
    ∃ names, numberedCalls.mapM NameCall.perform ["users"] = .ok (names, names.reverse ++ ["users"]) ∧
      names = ["sub_x", "sub_x_1", "sub_x_2", "sub_x_1_1", "sub_x_3"] ∧
      "sub_x_3" ∉ ["users"] ∧ ∀ i, i < 4 → names[i]? ≠ some "sub_x_3" := by
  obtain ⟨names, hrun, -, hfresh⟩ := drawn_fresh numberedCalls ["users"]
  have heval : numberedCalls.mapM NameCall.perform ["users"] =
      .ok (["sub_x", "sub_x_1", "sub_x_2", "sub_x_1_1", "sub_x_3"],
        ["sub_x_3", "sub_x_1_1", "sub_x_2", "sub_x_1", "sub_x", "users"]) := by
    rfl
  obtain ⟨rfl, -⟩ := Prod.mk.inj (Except.ok.inj (hrun.symm.trans heval))
  exact ⟨_, hrun, rfl, hfresh 4 "sub_x" "sub_x_3" rfl rfl⟩

end RelationalQuery.Compile
