import Mathlib.Data.List.Induction
import Mathlib.Data.List.Nodup
import Mathlib.Data.List.Pairwise
import RelationalQuery.Proofs.Execute.Columns

/-!
# Groups of rows

Folding groups rows by their cells in the columns of one table. Where the rows of that table differ
from each other, `groupRows_of_siblings` says what the groups are: one for each row of the table, in
the order of their first appearances, with all rows in which it appears.
-/

namespace RelationalQuery.Execute

/-! ## Rows that differ -/

/-- Whether cells are told apart, whichever of them stands first. -/
def Differ (a b : List Value) : Prop := sameCells a b = false ∧ sameCells b a = false

instance (a b : List Value) : Decidable (Differ a b) := inferInstanceAs (Decidable (_ ∧ _))

instance : Std.Symm fun n m : Nested => Differ n.cells m.cells where
  symm _ _ h := And.symm h

/-- Rows of one table that can be told apart: as wide as the table, each the same as itself and
different from the others. -/
structure Siblings (width : Nat) (ns : List Nested) : Prop where
  width : ∀ n ∈ ns, n.cells.length = width
  same : ∀ n ∈ ns, sameCells n.cells n.cells = true
  differ : ns.Pairwise fun n m => Differ n.cells m.cells

theorem siblings_iff {width : Nat} {ns : List Nested} :
    Siblings width ns ↔ (∀ n ∈ ns, n.cells.length = width) ∧
      (∀ n ∈ ns, sameCells n.cells n.cells = true) ∧
      ns.Pairwise fun n m => Differ n.cells m.cells :=
  ⟨fun h => ⟨h.width, h.same, h.differ⟩, fun h => ⟨h.1, h.2.1, h.2.2⟩⟩

instance (width : Nat) (ns : List Nested) : Decidable (Siblings width ns) :=
  decidable_of_iff _ siblings_iff.symm

variable {width : Nat} {ns ms : List Nested} {n m : Nested} {row : JoinedRow}
  {rows : List JoinedRow} {aliasName : String}

/-- Siblings with the same cells are one row. -/
theorem Siblings.sameCells_iff (h : Siblings width ns) (hn : n ∈ ns) (hm : m ∈ ns) :
    sameCells n.cells m.cells = true ↔ n = m := by
  constructor
  · intro hsame
    by_contra hne
    have hdiffer : Differ n.cells m.cells :=
      h.differ.forall hn hm hne
    rw [hdiffer.1] at hsame
    cases hsame
  · rintro rfl
    exact h.same n hn

/-- Siblings are told apart in any order. -/
theorem Siblings.perm (h : Siblings width ns) (hp : ns.Perm ms) : Siblings width ms where
  width := fun n hn => h.width n (hp.mem_iff.2 hn)
  same := fun n hn => h.same n (hp.mem_iff.2 hn)
  differ := (hp.pairwise_iff fun hab => And.symm hab).1 h.differ

/-- Siblings are told apart without some of them. -/
theorem Siblings.sublist (h : Siblings width ns) (hs : ms.Sublist ns) : Siblings width ms where
  width := fun n hn => h.width n (hs.subset hn)
  same := fun n hn => h.same n (hs.subset hn)
  differ := h.differ.sublist hs

/-- There are no two siblings with the same cells. -/
theorem Siblings.nodup (h : Siblings width ns) : ns.Nodup := by
  refine List.Pairwise.imp_of_mem ?_ h.differ
  rintro n m hn hm hdiffer rfl
  have hsame : sameCells n.cells n.cells = true := h.same n hn
  rw [hdiffer.1] at hsame
  cases hsame

/-! ## The order of first appearances -/

/-- Whether a row appears in a joined row. -/
def appearsIn (aliasName : String) (n : Nested) (row : JoinedRow) : Bool :=
  (row aliasName).any fun other => sameCells other.cells n.cells

/-- Rows of one table in the order in which they first appear in joined rows. -/
def inOrder (rows : List JoinedRow) (aliasName : String) (ns : List Nested) : List Nested :=
  ns.mergeSort fun n m =>
    rows.findIdx (appearsIn aliasName n) ≤ rows.findIdx (appearsIn aliasName m)

/-- Of siblings, the one that a joined row holds appears in it. -/
theorem Siblings.appearsIn_iff (h : Siblings width ns) (hn : n ∈ ns)
    (hrow : ∀ m, row aliasName = some m → m ∈ ns) :
    appearsIn aliasName n row = true ↔ row aliasName = some n := by
  rw [appearsIn]
  cases hm : row aliasName with
  | none => simp
  | some m => rw [Option.any_some, h.sameCells_iff (hrow m hm) hn, Option.some_inj]

theorem perm_inOrder (rows : List JoinedRow) (aliasName : String) (ns : List Nested) :
    (inOrder rows aliasName ns).Perm ns := List.mergeSort_perm _ _

theorem pairwise_inOrder (rows : List JoinedRow) (aliasName : String) (ns : List Nested) :
    (inOrder rows aliasName ns).Pairwise fun n m =>
      rows.findIdx (appearsIn aliasName n) ≤ rows.findIdx (appearsIn aliasName m) := by
  refine (List.pairwise_mergeSort ?_ ?_ ns).imp of_decide_eq_true
  · intro a b c hab hbc
    exact decide_eq_true (Nat.le_trans (of_decide_eq_true hab) (of_decide_eq_true hbc))
  · intro a b
    rw [← Bool.decide_or, decide_eq_true_iff]
    exact Nat.le_total _ _

/-- What appears first in joined rows is among the first of them whenever another row is. -/
theorem any_of_findIdx_le {α : Type} {p q : α → Bool} {first last : List α}
    (h : (first ++ last).findIdx p ≤ (first ++ last).findIdx q) (hq : first.any q = true) :
    first.any p = true := by
  rw [List.any_eq_true, ← List.findIdx_lt_length] at hq ⊢
  rw [List.findIdx_append, List.findIdx_append, if_pos hq] at h
  split at h
  · assumption
  · omega

/-! ## Groups -/

variable {slots : List Slot}

theorem groupRows_append_singleton (slots : List Slot) (rows : List Row) (row : Row) :
    groupRows slots (rows ++ [row]) = addRow (cells slots row) row (groupRows slots rows) := by
  rw [groupRows, List.foldl_append, List.foldl_cons, List.foldl_nil, groupRows]

/-- A row passes the groups with other cells. -/
theorem addRow_append {values : List Value} {row : Row} {first : List Group}
    (h : ∀ group ∈ first, sameCells group.cells values = false) (last : List Group) :
    addRow values row (first ++ last) = first ++ addRow values row last := by
  induction first with
  | nil => rfl
  | cons group rest ih =>
    obtain ⟨hgroup, hrest⟩ := List.forall_mem_cons.1 h
    rw [List.cons_append, addRow, hgroup, if_neg Bool.false_ne_true, ih hrest, List.cons_append]

/-- A row with new cells becomes a group of its own. -/
theorem addRow_of_differ {values : List Value} {row : Row} {groups : List Group}
    (h : ∀ group ∈ groups, sameCells group.cells values = false) :
    addRow values row groups = groups ++ [⟨values, [row]⟩] := by
  have happend : addRow values row (groups ++ []) = groups ++ addRow values row [] :=
    addRow_append h []
  rwa [List.append_nil, addRow] at happend

/-- The groups of siblings with their rows. -/
def groupsOf (rowsOf : Nested → List Row) (ns : List Nested) : List Group :=
  ns.map fun n => ⟨n.cells, rowsOf n⟩

theorem groupsOf_append (rowsOf : Nested → List Row) (first last : List Nested) :
    groupsOf rowsOf (first ++ last) = groupsOf rowsOf first ++ groupsOf rowsOf last :=
  List.map_append

theorem groupsOf_congr {before after : Nested → List Row} (h : ∀ n ∈ ns, after n = before n) :
    groupsOf after ns = groupsOf before ns := by
  refine List.map_congr_left ?_
  intro n hn
  rw [h n hn]

/-- A row with the cells of a sibling is added to the group of that sibling. -/
theorem addRow_groupsOf (h : Siblings width ns) (hn : n ∈ ns) {row : Row}
    {before after : Nested → List Row} (hat : after n = before n ++ [row])
    (hoff : ∀ m ∈ ns, m ≠ n → after m = before m) :
    addRow n.cells row (groupsOf before ns) = groupsOf after ns := by
  obtain ⟨first, last, rfl⟩ := List.append_of_mem hn
  have hnot : n ∉ first ++ last := (List.nodup_cons.1 (List.nodup_middle.1 h.nodup)).1
  have hsame : ∀ m ∈ first ++ last, after m = before m := by
    intro m hm
    refine hoff m ?_ (ne_of_mem_of_not_mem hm hnot)
    exact List.perm_middle.mem_iff.2 (List.mem_cons_of_mem _ hm)
  rw [List.forall_mem_append] at hsame
  have hpass : ∀ group ∈ groupsOf before first, sameCells group.cells n.cells = false := by
    intro group hgroup
    obtain ⟨m, hm, rfl⟩ := List.mem_map.1 hgroup
    have hmem : m ∈ first ++ n :: last := List.mem_append_left _ hm
    rw [← Bool.not_eq_true, h.sameCells_iff hmem hn]
    exact ne_of_mem_of_not_mem (List.mem_append_left _ hm) hnot
  have hcons : ∀ rowsOf : Nested → List Row,
      groupsOf rowsOf (n :: last) = ⟨n.cells, rowsOf n⟩ :: groupsOf rowsOf last :=
    fun _ => List.map_cons
  rw [groupsOf_append, groupsOf_append, groupsOf_congr hsame.1, addRow_append hpass, hcons, hcons,
    groupsOf_congr hsame.2, addRow, if_pos ((h.sameCells_iff hn hn).2 rfl), hat]

/-! ## Groups in the order of first appearances -/

/-- The siblings that appear in joined rows. -/
def shown (rows : List JoinedRow) (aliasName : String) (ns : List Nested) : List Nested :=
  ns.filter fun n => rows.any (appearsIn aliasName n)

/-- The joined rows in which a row appears, laid out in columns. -/
def rowsOf (flat : JoinedRow → Row) (rows : List JoinedRow) (aliasName : String) (n : Nested) :
    List Row :=
  (rows.filter (appearsIn aliasName n)).map flat

theorem shown_sublist (rows : List JoinedRow) (aliasName : String) (ns : List Nested) :
    (shown rows aliasName ns).Sublist ns := List.filter_sublist

section Shown

variable {flat : JoinedRow → Row} {first last : List JoinedRow}

/-- A joined row in which no sibling appears shows nothing new. -/
theorem shown_append_of_forall
    (h : ∀ n ∈ ns, appearsIn aliasName n row = true → first.any (appearsIn aliasName n) = true) :
    shown (first ++ [row]) aliasName ns = shown first aliasName ns := by
  refine List.filter_congr ?_
  intro n hn
  rw [List.any_append, Bool.or_eq_left_iff_imp, List.any_cons, List.any_nil, Bool.or_false]
  exact h n hn

/-- Of siblings in the order of first appearances, those up to one of them are shown. -/
theorem shown_append_cons {earlier later : List Nested}
    (hearlier : ∀ m ∈ earlier, rows.any (appearsIn aliasName m) = true)
    (hlater : ∀ m ∈ later, rows.any (appearsIn aliasName m) = false) :
    shown rows aliasName (earlier ++ n :: later) =
      earlier ++ if rows.any (appearsIn aliasName n) then [n] else [] := by
  have hnone : shown rows aliasName later = [] :=
    List.filter_eq_nil_iff.2 fun m hm => Bool.eq_false_iff.1 (hlater m hm)
  rw [shown, List.filter_append, List.filter_eq_self.2 hearlier, List.filter_cons, ← shown, hnone]

/-- A sibling that appears for the first time comes after those that have appeared. -/
theorem shown_append_of_new (h : Siblings width ns) (hn : n ∈ ns)
    (horder : ns.Pairwise fun n m => (first ++ row :: last).findIdx (appearsIn aliasName n) ≤
      (first ++ row :: last).findIdx (appearsIn aliasName m))
    (hrow : ∀ m ∈ ns, appearsIn aliasName m row = true ↔ m = n)
    (hnew : first.any (appearsIn aliasName n) = false) :
    shown (first ++ [row]) aliasName ns = shown first aliasName ns ++ [n] := by
  obtain ⟨earlier, later, rfl⟩ := List.append_of_mem hn
  have hnot : n ∉ earlier ++ later := (List.nodup_cons.1 (List.nodup_middle.1 h.nodup)).1
  rw [List.pairwise_append, List.pairwise_cons] at horder
  obtain ⟨-, ⟨hlater, -⟩, hearlier⟩ := horder
  have hany : ∀ m, (first ++ [row]).any (appearsIn aliasName m) =
      (first.any (appearsIn aliasName m) || appearsIn aliasName m row) := by
    intro m
    rw [List.any_append, List.any_cons, List.any_nil, Bool.or_false]
  have hat : (first ++ [row]).any (appearsIn aliasName n) = true := by
    rw [hany n, (hrow n hn).2 rfl, Bool.or_true]
  have hoff : ∀ m ∈ earlier ++ later, (first ++ [row]).any (appearsIn aliasName m) =
      first.any (appearsIn aliasName m) := by
    intro m hm
    have hmem := List.perm_middle.mem_iff.2 (List.mem_cons_of_mem n hm)
    have hnone : appearsIn aliasName m row = false := by
      rw [← Bool.not_eq_true, hrow m hmem]
      exact ne_of_mem_of_not_mem hm hnot
    rw [hany m, hnone, Bool.or_false]
  rw [List.forall_mem_append] at hoff
  have hbefore : ∀ m ∈ earlier, first.any (appearsIn aliasName m) = true := by
    intro m hm
    have hle := hearlier m hm n List.mem_cons_self
    rw [List.append_cons] at hle
    rw [← hoff.1 m hm]
    exact any_of_findIdx_le hle hat
  have hafter : ∀ m ∈ later, first.any (appearsIn aliasName m) = false := by
    intro m hm
    rw [← Bool.not_eq_true]
    intro happears
    rw [any_of_findIdx_le (hlater m hm) happears] at hnew
    cases hnew
  rw [shown_append_cons hbefore hafter, hnew, if_neg Bool.false_ne_true, List.append_nil,
    shown_append_cons (fun m hm => (hoff.1 m hm).trans (hbefore m hm))
      (fun m hm => (hoff.2 m hm).trans (hafter m hm)), hat, if_pos rfl]

theorem rowsOf_append_of_appears (h : appearsIn aliasName n row = true) :
    rowsOf flat (first ++ [row]) aliasName n = rowsOf flat first aliasName n ++ [flat row] := by
  rw [rowsOf, List.filter_append, List.filter_singleton, h, cond_true, List.map_append]
  rfl

theorem rowsOf_append_of_not_appears (h : appearsIn aliasName n row = false) :
    rowsOf flat (first ++ [row]) aliasName n = rowsOf flat first aliasName n := by
  rw [rowsOf, List.filter_append, List.filter_singleton, h, cond_false,
    List.append_nil, rowsOf]

/-- One more joined row is added to the group of the sibling that appears in it. -/
theorem addRow_shown (h : Siblings width ns) (hn : n ∈ ns)
    (horder : ns.Pairwise fun n m => (first ++ row :: last).findIdx (appearsIn aliasName n) ≤
      (first ++ row :: last).findIdx (appearsIn aliasName m))
    (hrow : ∀ m ∈ ns, appearsIn aliasName m row = true ↔ m = n) :
    addRow n.cells (flat row) (groupsOf (rowsOf flat first aliasName) (shown first aliasName ns)) =
      groupsOf (rowsOf flat (first ++ [row]) aliasName) (shown (first ++ [row]) aliasName ns) := by
  have hat : rowsOf flat (first ++ [row]) aliasName n = rowsOf flat first aliasName n ++ [flat row] :=
    rowsOf_append_of_appears ((hrow n hn).2 rfl)
  have hoff : ∀ m ∈ shown first aliasName ns, m ≠ n →
      rowsOf flat (first ++ [row]) aliasName m = rowsOf flat first aliasName m := by
    intro m hm hne
    refine rowsOf_append_of_not_appears ?_
    rw [← Bool.not_eq_true, hrow m (List.mem_of_mem_filter hm)]
    exact hne
  cases hnew : first.any (appearsIn aliasName n) with
  | true =>
    have hshown : n ∈ shown first aliasName ns := List.mem_filter.2 ⟨hn, hnew⟩
    rw [addRow_groupsOf (h.sublist (shown_sublist ..)) hshown hat hoff,
      shown_append_of_forall]
    intro m hm happears
    rwa [(hrow m hm).1 happears]
  | false =>
    have hnot : ∀ m ∈ shown first aliasName ns, m ≠ n := by
      rintro m hm rfl
      rw [(List.mem_filter.1 hm).2] at hnew
      cases hnew
    have hdiffer : ∀ group ∈ groupsOf (rowsOf flat first aliasName) (shown first aliasName ns),
        sameCells group.cells n.cells = false := by
      intro group hgroup
      obtain ⟨m, hm, rfl⟩ := List.mem_map.1 hgroup
      rw [← Bool.not_eq_true, h.sameCells_iff (List.mem_of_mem_filter hm) hn]
      exact hnot m hm
    have hnone : rowsOf flat first aliasName n = [] := by
      rw [rowsOf, List.map_eq_nil_iff, List.filter_eq_nil_iff]
      exact fun row hrow => List.any_eq_false.1 hnew row hrow
    rw [addRow_of_differ hdiffer, shown_append_of_new h hn horder hrow hnew, groupsOf_append,
      groupsOf_congr fun m hm => hoff m hm (hnot m hm), groupsOf, groupsOf, List.map_singleton, hat,
      hnone, List.nil_append]

/-- The groups of the first joined rows are those of the siblings that appear there. -/
theorem groupRows_first (h : Siblings width ns)
    (hmem : ∀ row ∈ rows, ∀ n, row aliasName = some n → n ∈ ns)
    (hcells : ∀ row ∈ rows, ∀ n, row aliasName = some n → cells slots (flat row) = n.cells)
    (horder : ns.Pairwise fun n m => rows.findIdx (appearsIn aliasName n) ≤
      rows.findIdx (appearsIn aliasName m))
    (hrows : rows = first ++ last) :
    groupRows slots ((first.filter fun row => (row aliasName).isSome).map flat) =
      groupsOf (rowsOf flat first aliasName) (shown first aliasName ns) := by
  induction first using List.reverseRecOn generalizing last with
  | nil =>
    have hnone : shown [] aliasName ns = [] :=
      List.filter_eq_nil_iff.2 fun _ _ => Bool.false_ne_true
    rw [hnone]
    rfl
  | append_singleton first row ih =>
    rw [List.append_assoc, List.singleton_append] at hrows
    have hrow : row ∈ rows := hrows ▸ List.mem_append_right _ List.mem_cons_self
    have happears : ∀ m ∈ ns, appearsIn aliasName m row = true ↔ row aliasName = some m :=
      fun m hm => h.appearsIn_iff hm (hmem row hrow)
    rw [List.filter_append, List.filter_singleton]
    cases hn : row aliasName with
    | none =>
      have hoff : ∀ m ∈ ns, appearsIn aliasName m row = false := by
        intro m hm
        rw [← Bool.not_eq_true, happears m hm, hn]
        exact Option.some_ne_none m ∘ Eq.symm
      rw [Option.isSome_none, cond_false, List.append_nil, ih hrows,
        shown_append_of_forall]
      · refine (groupsOf_congr ?_).symm
        exact fun m hm => rowsOf_append_of_not_appears (hoff m (List.mem_of_mem_filter hm))
      · intro m hm happears
        rw [hoff m hm] at happears
        cases happears
    | some n =>
      have hat : ∀ m ∈ ns, appearsIn aliasName m row = true ↔ m = n := by
        intro m hm
        rw [happears m hm, hn, Option.some_inj, eq_comm]
      rw [Option.isSome_some, cond_true, List.map_append, List.map_singleton,
        groupRows_append_singleton, hcells row hrow n hn, ih hrows,
        addRow_shown h (hmem row hrow n hn) (hrows ▸ horder) hat]

/-- Rows in which siblings appear are grouped by sibling, in the order of first appearances. -/
theorem groupRows_of_siblings (h : Siblings width ns)
    (hmem : ∀ row ∈ rows, ∀ n, row aliasName = some n → n ∈ ns)
    (hcells : ∀ row ∈ rows, ∀ n, row aliasName = some n → cells slots (flat row) = n.cells)
    (happear : ∀ n ∈ ns, ∃ row ∈ rows, row aliasName = some n) :
    groupRows slots ((rows.filter fun row => (row aliasName).isSome).map flat) =
      groupsOf (rowsOf flat rows aliasName) (inOrder rows aliasName ns) := by
  have hperm := perm_inOrder rows aliasName ns
  have hsiblings := h.perm hperm.symm
  rw [groupRows_first hsiblings (fun row hrow n hn => hperm.mem_iff.2 (hmem row hrow n hn)) hcells
    (pairwise_inOrder rows aliasName ns) (List.append_nil rows).symm, shown,
    List.filter_eq_self.2]
  intro n hn
  obtain ⟨row, hrow, hat⟩ := happear n (hperm.mem_iff.1 hn)
  rw [List.any_eq_true]
  exact ⟨row, hrow, (h.appearsIn_iff (hperm.mem_iff.1 hn) (hmem row hrow)).2 hat⟩

end Shown

/-- Rows that differ from each other are groups of their own. -/
theorem groupRows_of_pairwise {rows : List Row}
    (h : rows.Pairwise fun row other => sameCells (cells slots row) (cells slots other) = false) :
    groupRows slots rows = rows.map fun row => ⟨cells slots row, [row]⟩ := by
  induction rows using List.reverseRecOn with
  | nil => rfl
  | append_singleton rows row ih =>
    obtain ⟨hrows, -, hlast⟩ := List.pairwise_append.1 h
    rw [groupRows_append_singleton, ih hrows, addRow_of_differ, List.map_append, List.map_singleton]
    intro group hgroup
    obtain ⟨other, hother, rfl⟩ := List.mem_map.1 hgroup
    exact hlast other hother row List.mem_cons_self

/-! ## Groups of any rows -/

/-- What holds of groups holds after a row is added, if it holds of the row alone and of groups that
the row joins. -/
theorem forall_mem_addRow {P : Group → Prop} {values : List Value} {row : Row} {groups : List Group}
    (hnew : P ⟨values, [row]⟩)
    (hmore : ∀ group, P group → sameCells group.cells values = true →
      P { group with rows := group.rows ++ [row] })
    (hold : ∀ group ∈ groups, P group) : ∀ group ∈ addRow values row groups, P group := by
  induction groups with
  | nil => exact List.forall_mem_singleton.2 hnew
  | cons first rest ih =>
    obtain ⟨hfirst, hrest⟩ := List.forall_mem_cons.1 hold
    rw [addRow]
    split
    · next hsame => exact List.forall_mem_cons.2 ⟨hmore first hfirst hsame, hrest⟩
    · exact List.forall_mem_cons.2 ⟨hfirst, ih hrest⟩

/-- Whether the rows of a group agree with the first of them. -/
def Agrees (slots : List Slot) (group : Group) : Prop :=
  ∃ first others, group.rows = first :: others ∧ group.cells = cells slots first ∧
    ∀ row ∈ others, sameCells group.cells (cells slots row) = true

/-- The rows of every group agree with the first of them. -/
theorem agrees_of_mem_groupRows (slots : List Slot) (rows : List Row) :
    ∀ group ∈ groupRows slots rows, Agrees slots group := by
  induction rows using List.reverseRecOn with
  | nil => exact fun _ h => absurd h List.not_mem_nil
  | append_singleton rows row ih =>
    rw [groupRows_append_singleton]
    refine forall_mem_addRow ⟨row, [], rfl, rfl, fun _ h => absurd h List.not_mem_nil⟩ ?_ ih
    rintro group ⟨first, others, hrows, hcells, hothers⟩ hsame
    refine ⟨first, others ++ [row], ?_, hcells, ?_⟩
    · rw [hrows, List.cons_append]
    · exact List.forall_mem_append.2 ⟨hothers, List.forall_mem_singleton.2 hsame⟩

theorem perm_flatMap_addRow (values : List Value) (row : Row) (groups : List Group) :
    ((addRow values row groups).flatMap (·.rows)).Perm (groups.flatMap (·.rows) ++ [row]) := by
  induction groups with
  | nil => exact List.Perm.refl _
  | cons first rest ih =>
    rw [addRow]
    split
    · rw [List.flatMap_cons, List.flatMap_cons, List.append_assoc, List.append_assoc]
      exact List.perm_append_comm.append_left _
    · rw [List.flatMap_cons, List.flatMap_cons, List.append_assoc]
      exact ih.append_left _

/-- Every row is in a group. -/
theorem perm_flatMap_groupRows (slots : List Slot) (rows : List Row) :
    ((groupRows slots rows).flatMap (·.rows)).Perm rows := by
  induction rows using List.reverseRecOn with
  | nil => exact List.Perm.refl _
  | append_singleton rows row ih =>
    rw [groupRows_append_singleton]
    exact (perm_flatMap_addRow _ row _).trans (ih.append_right [row])

end RelationalQuery.Execute
