import Mathlib.Data.List.Basic
import RelationalQuery.Sql.Fragment

/-!
# Entries sorted by group

Where placeholders are numbered, the arguments of a statement are its values sorted by group, and
values of one group keep the order of the text. `ParamGroup.sorted` says this with the stable sort of
the library, which insertion by a key agrees with (`sortByKey_eq_mergeSort`). Sorted entries are those
of each group in turn (`sorted_eq`), and the place of an entry is told by the entries of earlier
groups and those of its own group in front of it (`getElem?_sorted`).

## Shape of the proof

Both sorts put the first entry back among the others in the same way: behind those with a smaller key
and behind no others. That groups come one after the other follows because entries that are sorted by
rank fall apart at every rank (`filter_lt_append`), and because sorting leaves the entries of one
group in their order (`filter_sorted`).
-/

namespace RelationalQuery

/-! ## Insertion by a key -/

section Insertion

variable {α : Type} {key : α → Nat}

theorem key_le_trans (key : α → Nat) (a b c : α) (hab : decide (key a ≤ key b))
    (hbc : decide (key b ≤ key c)) : decide (key a ≤ key c) := by
  simp only [decide_eq_true_eq] at hab hbc ⊢
  omega

theorem key_le_total (key : α → Nat) (a b : α) :
    decide (key a ≤ key b) || decide (key b ≤ key a) := by
  simp only [Bool.or_eq_true, decide_eq_true_eq]
  omega

/-- An entry is put behind those with smaller keys. -/
theorem insertByKey_append {entry : α} {front back : List α}
    (hfront : ∀ e ∈ front, key e < key entry) (hback : ∀ e ∈ back, key entry ≤ key e) :
    insertByKey key entry (front ++ back) = front ++ entry :: back := by
  induction front with
  | nil =>
    cases back with
    | nil => rfl
    | cons first rest => exact if_pos (hback first List.mem_cons_self)
  | cons first rest ih =>
    have hfirst : ¬ key entry ≤ key first := Nat.not_le.mpr (hfront first List.mem_cons_self)
    rw [List.cons_append, insertByKey, if_neg hfirst,
      ih fun e he => hfront e (List.mem_cons_of_mem _ he), List.cons_append]

/-- Insertion sorts as the library does. -/
theorem sortByKey_eq_mergeSort (key : α → Nat) (entries : List α) :
    sortByKey key entries = entries.mergeSort fun a b => key a ≤ key b := by
  induction entries with
  | nil => rw [sortByKey, List.mergeSort_nil]
  | cons first rest ih =>
    obtain ⟨front, back, hall, hrest, hfront⟩ :=
      List.mergeSort_cons (key_le_trans key) (key_le_total key) first rest
    have hsorted := List.pairwise_mergeSort (key_le_trans key) (key_le_total key) (first :: rest)
    rw [hall, List.pairwise_append, List.pairwise_cons] at hsorted
    rw [sortByKey, ih, hrest, hall]
    refine insertByKey_append (fun e he => ?_) fun e he => of_decide_eq_true (hsorted.2.1.1 e he)
    have hnot := hfront e he
    rw [Bool.not_eq_true', decide_eq_false_iff_not] at hnot
    omega

end Insertion

namespace ParamGroup

/-- The groups in the order of their arguments. -/
def ordered : List ParamGroup := [data, condition, filter, computed, join]

/-- No two groups have the same place. -/
theorem rank_injective {a b : ParamGroup} (h : a.rank = b.rank) : a = b := by
  cases a <;> cases b <;> first | rfl | exact absurd h (by decide)

section Sorting

variable {α : Type} (group : α → ParamGroup)

/-- Whether an entry does not have to stand behind another one. -/
def precedes (a b : α) : Bool := (group a).rank ≤ (group b).rank

/-- Entries sorted by group. Entries of one group keep their order. -/
def sorted (entries : List α) : List α := entries.mergeSort (precedes group)

variable {group} {entries : List α}

theorem precedes_trans (a b c : α) :
    precedes group a b → precedes group b c → precedes group a c :=
  key_le_trans (fun entry => (group entry).rank) a b c

theorem precedes_total (a b : α) : precedes group a b || precedes group b a :=
  key_le_total (fun entry => (group entry).rank) a b

theorem pairwise_sorted (group : α → ParamGroup) (entries : List α) :
    (sorted group entries).Pairwise fun a b => precedes group a b :=
  List.pairwise_mergeSort precedes_trans precedes_total entries

/-- What is read off entries may be read off before they are sorted, if it tells their groups. -/
theorem map_sorted {β : Type} (group : β → ParamGroup) (f : α → β) (entries : List α) :
    (sorted (fun entry => group (f entry)) entries).map f = sorted group (entries.map f) :=
  List.map_mergeSort fun _ _ _ _ => rfl

/-- Sorted entries are the entries in another order. -/
theorem sorted_perm (group : α → ParamGroup) (entries : List α) :
    (sorted group entries).Perm entries := List.mergeSort_perm _ _

/-- Sorting leaves the entries of one group as they are. -/
theorem filter_sorted (g : ParamGroup) (entries : List α) :
    (sorted group entries).filter (group · = g) = entries.filter (group · = g) := by
  have hpairwise : (entries.filter (group · = g)).Pairwise fun a b => precedes group a b := by
    refine List.pairwise_of_forall_mem_list fun a ha b hb => ?_
    simp only [List.mem_filter, decide_eq_true_eq] at ha hb
    simp only [precedes, ha.2, hb.2, Nat.le_refl, decide_true]
  -- they stand in the sorted entries in this order, and there are no others of this group
  have hsublist := (List.sublist_mergeSort precedes_trans precedes_total hpairwise
    List.filter_sublist).filter (group · = g)
  rw [List.filter_filter] at hsublist
  simp only [Bool.and_self] at hsublist
  have hperm := sorted_perm group entries
  exact (hsublist.eq_of_length (hperm.filter _).length_eq.symm).symm

/-- Sorted entries fall apart into those before a rank and the others. -/
theorem filter_lt_append (n : Nat) (h : entries.Pairwise fun a b => precedes group a b) :
    (entries.filter fun e => (group e).rank < n) ++
      (entries.filter fun e => n ≤ (group e).rank) = entries := by
  induction entries with
  | nil => rfl
  | cons first rest ih =>
    obtain ⟨hfirst, hrest⟩ := List.pairwise_cons.mp h
    by_cases hn : (group first).rank < n
    · have hle : ¬ n ≤ (group first).rank := by omega
      simp only [List.filter_cons, hn, hle, decide_true, decide_false, if_true,
        Bool.false_eq_true, if_false, List.cons_append, ih hrest]
    · -- behind an entry of a later rank stand only such entries
      have hlater : ∀ entry ∈ first :: rest, n ≤ (group entry).rank := by
        intro entry hentry
        rcases List.mem_cons.mp hentry with rfl | hentry
        · omega
        · have hle := hfirst entry hentry
          simp only [precedes, decide_eq_true_eq] at hle
          omega
      rw [List.filter_eq_nil_iff.mpr fun entry hentry => by simpa using hlater entry hentry,
        List.filter_eq_self.mpr fun entry hentry => by simpa using hlater entry hentry]
      rfl

/-- Sorted entries are those of the first group, those of the second, and so on. -/
theorem flatMap_filter_of_sorted {groups : List ParamGroup}
    (hgroups : groups.Pairwise (·.rank < ·.rank)) (hmem : ∀ entry ∈ entries, group entry ∈ groups)
    (h : entries.Pairwise fun a b => precedes group a b) :
    (groups.flatMap fun g => entries.filter (group · = g)) = entries := by
  induction groups generalizing entries with
  | nil =>
    rw [List.eq_nil_iff_forall_not_mem.mpr fun entry hentry => List.not_mem_nil (hmem entry hentry)]
    rfl
  | cons g groups ih =>
    obtain ⟨hg, hgroups⟩ := List.pairwise_cons.mp hgroups
    have hfirst : entries.filter (group · = g) =
        entries.filter fun e => (group e).rank < g.rank + 1 := by
      refine List.filter_congr fun entry hentry => decide_eq_decide.mpr ?_
      rcases List.mem_cons.mp (hmem entry hentry) with hgroup | hgroup
      · exact iff_of_true hgroup (by rw [hgroup]; omega)
      · have hlt := hg _ hgroup
        exact iff_of_false (fun heq => by rw [heq] at hlt; omega) (by omega)
    have hothers (other : ParamGroup) (hother : other ∈ groups) :
        entries.filter (group · = other) =
          (entries.filter fun e => g.rank + 1 ≤ (group e).rank).filter (group · = other) := by
      rw [List.filter_filter]
      refine List.filter_congr fun entry _ => ?_
      rw [← Bool.decide_and]
      refine decide_eq_decide.mpr ⟨fun heq => ⟨heq, ?_⟩, And.left⟩
      have hlt := hg other hother
      rw [heq]
      omega
    have hlater : ∀ entry ∈ entries.filter (fun e => g.rank + 1 ≤ (group e).rank),
        group entry ∈ groups := fun entry hentry => by
      simp only [List.mem_filter, decide_eq_true_eq] at hentry
      refine (List.mem_cons.mp (hmem entry hentry.1)).resolve_left fun heq => ?_
      rw [heq] at hentry
      omega
    rw [List.flatMap_cons, hfirst, List.flatMap_congr hothers, ih hgroups hlater (h.filter _),
      filter_lt_append _ h]

/-- Sorted entries are those of each group in turn. -/
theorem sorted_eq (entries : List α) :
    sorted group entries = ordered.flatMap fun g => entries.filter (group · = g) := by
  have hmem : ∀ entry ∈ sorted group entries, group entry ∈ ordered := fun entry _ => by
    cases group entry <;> decide
  rw [← flatMap_filter_of_sorted (by decide) hmem (pairwise_sorted group entries)]
  exact List.flatMap_congr fun g _ => filter_sorted g entries

/-- An entry stands behind those of earlier groups and those of its own group in front of it. -/
theorem getElem?_sorted (group : α → ParamGroup) (before after : List α) (entry : α) :
    (sorted group (before ++ entry :: after))[
        (before ++ entry :: after).countP (fun e => (group e).rank < (group entry).rank) +
          before.countP (group · = group entry)]? = some entry := by
  generalize hentries : before ++ entry :: after = entries
  have hsorted := pairwise_sorted group entries
  have hperm := sorted_perm group entries
  -- what is not earlier starts with the entries of the group
  have hgroup : (((sorted group entries).filter fun e => (group entry).rank ≤ (group e).rank).filter
        fun e => (group e).rank < (group entry).rank + 1) =
      before.filter (group · = group entry) ++
        entry :: after.filter (group · = group entry) := by
    rw [List.filter_filter]
    calc (sorted group entries).filter (fun e =>
            decide ((group e).rank < (group entry).rank + 1) &&
              decide ((group entry).rank ≤ (group e).rank))
      _ = (sorted group entries).filter (group · = group entry) := by
        refine List.filter_congr fun e _ => ?_
        rw [← Bool.decide_and]
        refine decide_eq_decide.mpr ⟨fun hrank => ?_, fun heq => by rw [heq]; omega⟩
        exact rank_injective (by omega)
      _ = _ := by
        rw [filter_sorted, ← hentries, List.filter_append, List.filter_cons]
        simp only [decide_true, if_true]
  have hfront := filter_lt_append (group entry).rank hsorted
  have hback := filter_lt_append ((group entry).rank + 1)
    (hsorted.filter fun e => (group entry).rank ≤ (group e).rank)
  rw [← hback, hgroup, List.append_assoc, List.cons_append, ← List.append_assoc] at hfront
  have hlength : (((sorted group entries).filter fun e => (group e).rank < (group entry).rank) ++
      before.filter (group · = group entry)).length =
        entries.countP (fun e => (group e).rank < (group entry).rank) +
          before.countP (group · = group entry) := by
    rw [List.length_append, ← List.countP_eq_length_filter, ← List.countP_eq_length_filter,
      hperm.countP_eq]
  rw [← hfront, List.getElem?_append_right (Nat.le_of_eq hlength), hlength, Nat.sub_self]
  rfl

end Sorting

end ParamGroup

end RelationalQuery
