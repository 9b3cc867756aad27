import Mathlib.Data.List.Perm.Basic
import Mathlib.Logic.Function.Basic
import RelationalQuery.Execute.Record

/-!
# Rows of joined tables

A read with inclusions answers with the rows of nested left joins. `Nested` is a row of a table with
the rows of other tables that are related to it, and `joinedRows` joins such rows: one row for each
combination of related rows, where a table without a related row is missing together with the tables
that are joined to it.

## Shape of the proof

`mem_joinedRows` says which rows these are, without the order of the joins: each table holds one of
the rows that are related to the row of its parent. Folding goes through the tables in order and
looks at fewer and fewer rows. `Spans` is what stays true of the rows that are left: as far as the
tables that are still to come are concerned, no combination is missing.
-/

namespace RelationalQuery.Execute

open Function (update)

/-- A row of a table, with the rows that are related to it by the aliases of their tables. -/
inductive Nested
  | node (cells : List Value) (related : String → List Nested)

namespace Nested

/-- The cells of the row. -/
def cells : Nested → List Value
  | node cells _ => cells

/-- The rows of another table that are related to the row. -/
def related : Nested → String → List Nested
  | node _ related => related

end Nested

/-- A row of joined tables: the row of each table by its alias, if there is one. -/
abbrev JoinedRow := String → Option Nested

/-! ## Trees of inclusions -/

/-- Whether inclusions are a tree over tables that have been seen: each is joined to a table before
it, under an alias of its own and with known columns. -/
def IsTree (seen : List String) : List Inclusion → Prop
  | [] => True
  | inclusion :: rest =>
    inclusion.parent ∈ seen ∧ inclusion.aliasName ∉ seen ∧ inclusion.columns.isSome ∧
      IsTree (inclusion.aliasName :: seen) rest

instance decidableIsTree : (seen : List String) → (inclusions : List Inclusion) →
    Decidable (IsTree seen inclusions)
  | _, [] => isTrue trivial
  | seen, inclusion :: rest =>
    have := decidableIsTree (inclusion.aliasName :: seen) rest
    inferInstanceAs (Decidable (_ ∧ _ ∧ _ ∧ _))

/-- The aliases of the tables of inclusions. -/
def aliases (inclusions : List Inclusion) : List String := inclusions.map (·.aliasName)

variable {seen : List String} {inclusion : Inclusion} {inclusions rest : List Inclusion}

theorem aliases_cons :
    aliases (inclusion :: rest) = inclusion.aliasName :: aliases rest := rfl

/-- No alias of a tree has been seen before. -/
theorem IsTree.notMem_aliases {name : String} (h : IsTree seen inclusions) (hname : name ∈ seen) :
    name ∉ aliases inclusions := by
  induction inclusions generalizing seen with
  | nil => exact List.not_mem_nil
  | cons i rest ih =>
    obtain ⟨-, hfresh, -, hrest⟩ := h
    rw [aliases_cons, List.mem_cons, not_or]
    refine ⟨?_, ih hrest (List.mem_cons_of_mem _ hname)⟩
    rintro rfl
    exact hfresh hname

/-- The aliases of a tree differ. -/
theorem IsTree.nodup_aliases (h : IsTree seen inclusions) : (aliases inclusions).Nodup := by
  induction inclusions generalizing seen with
  | nil => exact List.nodup_nil
  | cons i rest ih =>
    obtain ⟨-, -, -, hrest⟩ := h
    exact List.nodup_cons.2 ⟨hrest.notMem_aliases List.mem_cons_self, ih hrest⟩

/-- The table that an inclusion is joined to is not among those that come with it or after it. -/
theorem IsTree.parent_notMem (h : IsTree seen (inclusion :: rest)) :
    inclusion.parent ∉ aliases (inclusion :: rest) :=
  h.notMem_aliases h.1

/-- The alias of an inclusion is not among those that come after it. -/
theorem IsTree.aliasName_notMem (h : IsTree seen (inclusion :: rest)) :
    inclusion.aliasName ∉ aliases rest :=
  h.2.2.2.notMem_aliases List.mem_cons_self

/-! ## Left joins -/

/-- The rows of another table that are related to a row. -/
def relatedRows (inclusion : Inclusion) (row : JoinedRow) : List Nested :=
  ((row inclusion.parent).map (·.related inclusion.aliasName)).getD []

/-- The rows that a left join puts beside a row: the related ones, or none. -/
def partners (inclusion : Inclusion) (row : JoinedRow) : List (Option Nested) :=
  if (relatedRows inclusion row).isEmpty then [none] else (relatedRows inclusion row).map some

/-- The left join of rows with one more table. -/
def leftJoin (rows : List JoinedRow) (inclusion : Inclusion) : List JoinedRow :=
  rows.flatMap fun row => (partners inclusion row).map (update row inclusion.aliasName)

/-- A row of the queried table, before anything is joined to it. -/
def unjoined (root : Nested) : JoinedRow := update (fun _ => none) Compile.baseAlias (some root)

/-- The rows of nested left joins. -/
def joinedRows (inclusions : List Inclusion) (roots : List Nested) : List JoinedRow :=
  inclusions.foldl leftJoin (roots.map unjoined)

namespace JoinedRow

/-- Whether two rows agree in all tables that do not belong to inclusions. -/
def AgreesOff (inclusions : List Inclusion) (row other : JoinedRow) : Prop :=
  ∀ name, name ∉ aliases inclusions → row name = other name

/-- Whether each table holds one of the rows that are related to the row of its parent. -/
def Consistent (inclusions : List Inclusion) (row : JoinedRow) : Prop :=
  ∀ inclusion ∈ inclusions, row inclusion.aliasName ∈ partners inclusion row

end JoinedRow

open JoinedRow

variable {row other : JoinedRow} {rows : List JoinedRow} {root n m : Nested} {roots : List Nested}

theorem partners_ne_nil (inclusion : Inclusion) (row : JoinedRow) :
    partners inclusion row ≠ [] := by
  unfold partners
  split
  · exact List.cons_ne_nil _ _
  · rename_i h
    rwa [ne_eq, List.map_eq_nil_iff, ← List.isEmpty_iff]

/-- What is joined to a row depends on the row of the parent alone. -/
theorem partners_congr (h : row inclusion.parent = other inclusion.parent) :
    partners inclusion row = partners inclusion other := by
  unfold partners relatedRows
  rw [h]

/-- Beside a row, the related rows of another table are joined. -/
theorem some_mem_partners (h : row inclusion.parent = some n) :
    some m ∈ partners inclusion row ↔ m ∈ n.related inclusion.aliasName := by
  have hrelated : relatedRows inclusion row = n.related inclusion.aliasName := by
    rw [relatedRows, h, Option.map_some, Option.getD_some]
  rw [partners, hrelated]
  split
  · rename_i hempty
    simp [List.isEmpty_iff.1 hempty]
  · simp

/-- Agreeing off fewer tables is agreeing off more. -/
theorem JoinedRow.AgreesOff.cons (h : AgreesOff rest row other) :
    AgreesOff (inclusion :: rest) row other := by
  intro name hname
  rw [aliases_cons, List.mem_cons, not_or] at hname
  exact h name hname.2

/-- A row that is joined to another one, and continued from there, is consistent at its table. -/
theorem mem_partners_of_agreesOff {partner : Option Nested}
    (htree : IsTree seen (inclusion :: rest))
    (hagrees : AgreesOff rest row (update other inclusion.aliasName partner))
    (hpartner : partner ∈ partners inclusion other) :
    AgreesOff (inclusion :: rest) row other ∧ row inclusion.aliasName ∈ partners inclusion row := by
  have hoff : AgreesOff (inclusion :: rest) row other := by
    intro name hname
    have hne : name ≠ inclusion.aliasName := by
      rintro rfl
      exact hname List.mem_cons_self
    rw [hagrees.cons name hname, Function.update_of_ne hne]
  refine ⟨hoff, ?_⟩
  have hparent : row inclusion.parent = other inclusion.parent := hoff _ htree.parent_notMem
  have halias : row inclusion.aliasName = partner := by
    rw [hagrees _ htree.aliasName_notMem, Function.update_self]
  rw [halias, partners_congr hparent]
  exact hpartner

/-- The rows of left joins are those that go on from a row before them and are consistent. -/
theorem mem_foldl_leftJoin (htree : IsTree seen inclusions) :
    row ∈ inclusions.foldl leftJoin rows ↔
      ∃ start ∈ rows, AgreesOff inclusions row start ∧ row.Consistent inclusions := by
  induction inclusions generalizing rows seen with
  | nil =>
    simp only [List.foldl_nil, JoinedRow.Consistent, List.not_mem_nil, false_implies, implies_true,
      and_true]
    refine ⟨fun h => ⟨row, h, fun _ _ => rfl⟩, ?_⟩
    rintro ⟨start, hstart, hagrees⟩
    rwa [show row = start from funext fun name => hagrees name List.not_mem_nil]
  | cons i rest ih =>
    rw [List.foldl_cons, ih htree.2.2.2]
    constructor
    · rintro ⟨middle, hmiddle, hagrees, hrest⟩
      obtain ⟨start, hstart, hmiddle⟩ := List.mem_flatMap.1 hmiddle
      obtain ⟨partner, hpartner, rfl⟩ := List.mem_map.1 hmiddle
      obtain ⟨hoff, hat⟩ := mem_partners_of_agreesOff htree hagrees hpartner
      exact ⟨start, hstart, hoff, List.forall_mem_cons.2 ⟨hat, hrest⟩⟩
    · rintro ⟨start, hstart, hoff, hconsistent⟩
      obtain ⟨hat, hrest⟩ := List.forall_mem_cons.1 hconsistent
      rw [partners_congr (hoff _ htree.parent_notMem)] at hat
      refine ⟨update start i.aliasName (row i.aliasName),
        List.mem_flatMap.2 ⟨start, hstart, List.mem_map_of_mem hat⟩, ?_, hrest⟩
      intro name hname
      by_cases heq : name = i.aliasName
      · rw [heq, Function.update_self]
      · rw [Function.update_of_ne heq]
        refine hoff name ?_
        rw [aliases_cons, List.mem_cons, not_or]
        exact ⟨heq, hname⟩

/-- The rows of nested left joins go on from a row of the queried table and are consistent. -/
theorem mem_joinedRows (htree : IsTree [Compile.baseAlias] inclusions) :
    row ∈ joinedRows inclusions roots ↔
      ∃ root ∈ roots, AgreesOff inclusions row (unjoined root) ∧ row.Consistent inclusions := by
  rw [joinedRows, mem_foldl_leftJoin htree]
  simp only [List.mem_map, exists_exists_and_eq_and]

/-- Left joins lose no row. -/
theorem foldl_leftJoin_ne_nil (h : rows ≠ []) : inclusions.foldl leftJoin rows ≠ [] := by
  induction inclusions generalizing rows with
  | nil => exact h
  | cons i rest ih =>
    refine ih ?_
    obtain ⟨row, hrow⟩ := List.exists_mem_of_ne_nil rows h
    obtain ⟨partner, hpartner⟩ := List.exists_mem_of_ne_nil _ (partners_ne_nil i row)
    exact List.ne_nil_of_mem (List.mem_flatMap.2 ⟨row, hrow, List.mem_map_of_mem hpartner⟩)

/-- Every row can be continued over the tables that are still to come. -/
theorem exists_consistent (htree : IsTree seen inclusions) (start : JoinedRow) :
    ∃ row : JoinedRow, AgreesOff inclusions row start ∧ row.Consistent inclusions := by
  have hne : inclusions.foldl leftJoin [start] ≠ [] :=
    foldl_leftJoin_ne_nil (List.cons_ne_nil start [])
  obtain ⟨row, hrow⟩ := List.exists_mem_of_ne_nil _ hne
  obtain ⟨found, hfound, hagrees, hconsistent⟩ := (mem_foldl_leftJoin htree).1 hrow
  obtain rfl := List.mem_singleton.1 hfound
  exact ⟨row, hagrees, hconsistent⟩

/-! ## Rows that span the rest of a tree -/

/-- Rows in which a table holds one fixed row, and the tables that are still to come every
combination of rows. -/
structure Spans (rest : List Inclusion) (aliasName : String) (n : Nested)
    (rows : List JoinedRow) : Prop where
  nonempty : rows ≠ []
  holds : ∀ row ∈ rows, row aliasName = some n
  consistent : ∀ row ∈ rows, row.Consistent rest
  closed : ∀ row ∈ rows, ∀ other : JoinedRow, AgreesOff rest other row → other.Consistent rest →
    other ∈ rows

/-- The row of a joined table is one of those that are related to the row of its parent. -/
theorem Spans.mem_related (h : Spans (inclusion :: rest) inclusion.parent n rows)
    (hrow : row ∈ rows) (hm : row inclusion.aliasName = some m) :
    m ∈ n.related inclusion.aliasName := by
  have hat := h.consistent row hrow inclusion List.mem_cons_self
  rwa [hm, some_mem_partners (h.holds row hrow)] at hat

/-- Rows span the tables after the next one as well. -/
theorem Spans.tail {aliasName : String} (htree : IsTree seen (inclusion :: rest))
    (h : Spans (inclusion :: rest) aliasName n rows) : Spans rest aliasName n rows where
  nonempty := h.nonempty
  holds := h.holds
  consistent := fun row hrow => (List.forall_mem_cons.1 (h.consistent row hrow)).2
  closed := by
    intro row hrow other hagrees hconsistent
    refine h.closed row hrow other hagrees.cons (List.forall_mem_cons.2 ⟨?_, hconsistent⟩)
    have hparent : other inclusion.parent = row inclusion.parent :=
      hagrees.cons _ htree.parent_notMem
    rw [hagrees _ htree.aliasName_notMem, partners_congr hparent]
    exact h.consistent row hrow inclusion List.mem_cons_self

/-- The rows in which the next table holds one of the related rows span the tables after it. -/
theorem Spans.below {keeps : JoinedRow → Bool} (htree : IsTree seen (inclusion :: rest))
    (h : Spans (inclusion :: rest) inclusion.parent n rows)
    (hm : m ∈ n.related inclusion.aliasName)
    (hkeeps : ∀ row ∈ rows, keeps row = true ↔ row inclusion.aliasName = some m) :
    Spans rest inclusion.aliasName m (rows.filter keeps) where
  nonempty := by
    obtain ⟨start, hstart⟩ := List.exists_mem_of_ne_nil _ h.nonempty
    obtain ⟨row, hagrees, hconsistent⟩ :=
      exists_consistent htree.2.2.2 (update start inclusion.aliasName (some m))
    have hpartner : some m ∈ partners inclusion start :=
      (some_mem_partners (h.holds start hstart)).2 hm
    obtain ⟨hoff, hat⟩ := mem_partners_of_agreesOff htree hagrees hpartner
    have hrow : row ∈ rows :=
      h.closed start hstart row hoff (List.forall_mem_cons.2 ⟨hat, hconsistent⟩)
    refine List.ne_nil_of_mem (List.mem_filter.2 ⟨hrow, (hkeeps row hrow).2 ?_⟩)
    rw [hagrees _ htree.aliasName_notMem, Function.update_self]
  holds := by
    intro row hrow
    obtain ⟨hrow, hkept⟩ := List.mem_filter.1 hrow
    exact (hkeeps row hrow).1 hkept
  consistent := fun row hrow => (h.tail htree).consistent row (List.mem_filter.1 hrow).1
  closed := by
    intro row hrow other hagrees hconsistent
    obtain ⟨hrow, hkept⟩ := List.mem_filter.1 hrow
    have hother : other ∈ rows := (h.tail htree).closed row hrow other hagrees hconsistent
    refine List.mem_filter.2 ⟨hother, (hkeeps other hother).2 ?_⟩
    rw [hagrees _ htree.aliasName_notMem]
    exact (hkeeps row hrow).1 hkept

/-- Joining other tables leaves the row of the queried table. -/
theorem holds_of_agreesOff_unjoined (htree : IsTree [Compile.baseAlias] inclusions)
    (h : AgreesOff inclusions row (unjoined root)) : row Compile.baseAlias = some root := by
  rw [h _ (htree.notMem_aliases (List.mem_singleton.2 rfl)), unjoined, Function.update_self]

/-- In the rows of nested left joins, the queried table holds its rows. -/
theorem exists_root_of_mem_joinedRows (htree : IsTree [Compile.baseAlias] inclusions)
    (hrow : row ∈ joinedRows inclusions roots) :
    ∃ root ∈ roots, row Compile.baseAlias = some root := by
  obtain ⟨root, hroot, hagrees, -⟩ := (mem_joinedRows htree).1 hrow
  exact ⟨root, hroot, holds_of_agreesOff_unjoined htree hagrees⟩

/-- The rows of nested left joins that belong to one row of the queried table span all joined
tables. -/
theorem spans_joinedRows {keeps : JoinedRow → Bool} (htree : IsTree [Compile.baseAlias] inclusions)
    (hrows : rows.Perm (joinedRows inclusions roots)) (hroot : root ∈ roots)
    (hkeeps : ∀ row ∈ rows, keeps row = true ↔ row Compile.baseAlias = some root) :
    Spans inclusions Compile.baseAlias root (rows.filter keeps) where
  nonempty := by
    obtain ⟨row, hagrees, hconsistent⟩ := exists_consistent htree (unjoined root)
    have hrow : row ∈ rows :=
      hrows.mem_iff.2 ((mem_joinedRows htree).2 ⟨root, hroot, hagrees, hconsistent⟩)
    exact List.ne_nil_of_mem
      (List.mem_filter.2 ⟨hrow, (hkeeps row hrow).2 (holds_of_agreesOff_unjoined htree hagrees)⟩)
  holds := by
    intro row hrow
    obtain ⟨hrow, hkept⟩ := List.mem_filter.1 hrow
    exact (hkeeps row hrow).1 hkept
  consistent := by
    intro row hrow
    obtain ⟨-, -, -, hconsistent⟩ :=
      (mem_joinedRows htree).1 (hrows.mem_iff.1 (List.mem_filter.1 hrow).1)
    exact hconsistent
  closed := by
    intro row hrow other hagrees hconsistent
    obtain ⟨hrow, hkept⟩ := List.mem_filter.1 hrow
    obtain ⟨start, hstart, hoff, -⟩ := (mem_joinedRows htree).1 (hrows.mem_iff.1 hrow)
    have hother : other ∈ rows := by
      refine hrows.mem_iff.2 ((mem_joinedRows htree).2 ⟨start, hstart, ?_, hconsistent⟩)
      exact fun name hname => (hagrees name hname).trans (hoff name hname)
    refine List.mem_filter.2 ⟨hother, (hkeeps other hother).2 ?_⟩
    rw [hagrees _ (htree.notMem_aliases (List.mem_singleton.2 rfl))]
    exact (hkeeps row hrow).1 hkept

end RelationalQuery.Execute
