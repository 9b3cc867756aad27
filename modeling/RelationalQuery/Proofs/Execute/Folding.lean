import RelationalQuery.Proofs.Execute.Grouping
import RelationalQuery.Proofs.Sql.Sorting

/-!
# Folding undoes joining

Left joins spread nested rows over many flat ones, and `Execute.records` folds them back into nested
records. `records_of_perm_joinedRows` says that nothing is lost or mixed up on the way, in whatever
order the flat rows arrive: the records are those of the nested rows, in the order of their first
appearances.

It holds under the condition `Told` on the names of columns. Without it, a column of the queried
table can be taken for one of a joined table: see `records_totals`.

## Shape of the proof

The induction is on the inclusions, as in `layoutsBelow` and `relationsOf`. What it carries is
`Folds`: the rows at hand hold one row of the table that is folded, and, as far as the inclusions
that are left are concerned, every combination of rows related to it (`Spans`).
-/

namespace RelationalQuery

namespace Dict

variable {α : Type}

theorem keys_zip {names : List String} {values : List α} (h : values.length = names.length) :
    keys (names.zip values) = names := List.map_fst_zip (Nat.le_of_eq h.symm)

/-- A new key goes to the end. -/
theorem put_of_notMem {entries : Dict α} {key : String} (h : key ∉ keys entries) (value : α) :
    entries.put key value = entries ++ [(key, value)] := by
  induction entries with
  | nil => rfl
  | cons entry rest ih =>
    rw [keys_cons, List.mem_cons, not_or] at h
    rw [put, if_neg (Ne.symm h.1), ih h.2, List.cons_append]

/-- Entries with new and different keys go to the end. -/
theorem putAll_of_nodup {entries before : Dict α} (h : (keys (before ++ entries)).Nodup) :
    putAll before entries = before ++ entries := by
  induction entries generalizing before with
  | nil => exact (List.append_nil before).symm
  | cons entry rest ih =>
    rw [List.append_cons] at h ⊢
    have hnew : entry.1 ∉ keys before := by
      rw [keys, List.map_append, List.map_append] at h
      intro hmem
      exact (List.nodup_append.1 (List.nodup_append.1 h).1).2.2 _ hmem _ List.mem_cons_self rfl
    rw [← ih h, putAll, List.foldl_cons, put_of_notMem hnew, putAll]

/-- Entries with different keys are set as they are. -/
theorem ofList_of_nodup {entries : Dict α} (h : (keys entries).Nodup) :
    ofList entries = entries := putAll_of_nodup h

end Dict

namespace Execute

open JoinedRow

/-! ## Nested records -/

/-- The names of the relations under a table. -/
def relationNames (inclusions : List Inclusion) (aliasName : String) : List String :=
  (inclusions.filter (·.parent = aliasName)).map (·.relation)

/-- The relations of a row, in a record: the related rows in the order in which they first appear
in those joined rows that hold the row itself. A relation that is no list has its one related row, or
null. -/
def relationsOf (rows : List JoinedRow) : List Inclusion → String → Nested → Record
  | [], _, _ => []
  | i :: rest, aliasName, n =>
    if i.parent = aliasName then
      (i.relation, relationValue i.isList ((inOrder rows i.aliasName (n.related i.aliasName)).map
        fun m => (i.columnNames.map fieldName).zip m.cells ++
          relationsOf (rows.filter (appearsIn i.aliasName m)) rest i.aliasName m)) ::
        relationsOf rows rest aliasName n
    else relationsOf rows rest aliasName n

/-- The keys of a record for the columns of the queried table: computed fields keep their names, and
other columns have the names of their fields. -/
def ownKeys (s : Statement) (h : Heading) : List String :=
  h.own.map fun name => if name ∈ s.computed then name else fieldName name

/-- The records of nested rows, in the order in which the rows first appear in joined rows. -/
def nestedRecords (s : Statement) (h : Heading) (rows : List JoinedRow) (roots : List Nested) :
    List Record :=
  (inOrder rows Compile.baseAlias roots).map fun n =>
    (ownKeys s h).zip n.cells ++
      relationsOf (rows.filter (appearsIn Compile.baseAlias n)) s.inclusions Compile.baseAlias n

/-- Whether the rows under a row fit the inclusions: those of one relation can be told apart, and
none has null in all columns. -/
def Fits : List Inclusion → String → Nested → Prop
  | [], _, _ => True
  | i :: rest, aliasName, n =>
    (i.parent = aliasName →
      Siblings i.columnNames.length (n.related i.aliasName) ∧
        ∀ m ∈ n.related i.aliasName,
          m.cells.any (!·.isNull) = true ∧ Fits rest i.aliasName m) ∧
      Fits rest aliasName n

instance decidableFits : (inclusions : List Inclusion) → (aliasName : String) → (n : Nested) →
    Decidable (Fits inclusions aliasName n)
  | [], _, _ => isTrue trivial
  | i :: rest, aliasName, n =>
    have := decidableFits rest aliasName n
    have := decidableFits rest i.aliasName
    inferInstanceAs (Decidable ((_ → _ ∧ ∀ m ∈ n.related i.aliasName, _ ∧ _) ∧ _))

/-- Whether nested rows can be folded back after they have been joined: the inclusions are a tree,
the rows under one row can be told apart, and a record has different keys for its columns and its
relations. -/
structure Foldable (s : Statement) (h : Heading) (roots : List Nested) : Prop where
  tree : IsTree [Compile.baseAlias] s.inclusions
  siblings : Siblings h.own.length roots
  fits : ∀ n ∈ roots, Fits s.inclusions Compile.baseAlias n
  ownKeys : (ownKeys s h ++ relationNames s.inclusions Compile.baseAlias).Nodup
  joinedKeys : ∀ i ∈ s.inclusions, (i.columnNames.map fieldName ++
    relationNames s.inclusions i.aliasName).Nodup

variable {s : Statement} {h : Heading} {roots : List Nested} {n m : Nested} {row : JoinedRow}
  {rows : List JoinedRow} {i : Inclusion} {inclusions rest : List Inclusion} {seen : List String}
  {aliasName : String}

/-- These are the keys that the columns are given. -/
theorem ownKeys_eq (s : Statement) (h : Heading) : ownKeys s h = h.own.map (baseKey s.computed) := by
  refine List.map_congr_left fun name _ => ?_
  simp only [baseKey, List.contains_iff_mem]

/-! ## The rows of joins fill the columns -/

/-- A row that is joined to a row that fits has the columns of its table, and fits as well. -/
theorem Fits.of_mem_partners (hparent : ∀ n, row i.parent = some n → Fits (i :: rest) i.parent n)
    (hm : some m ∈ partners i row) :
    m.cells.length = i.columnNames.length ∧ Fits rest i.aliasName m := by
  cases hn : row i.parent with
  | none =>
    rw [partners, relatedRows, hn] at hm
    simp at hm
  | some n =>
    rw [some_mem_partners hn] at hm
    obtain ⟨hsiblings, hbelow⟩ := (hparent n hn).1 rfl
    exact ⟨hsiblings.width m hm, (hbelow m hm).2⟩

/-- In a consistent row, the rows of joined tables have the columns of their tables. -/
theorem length_cells_of_consistent (htree : IsTree seen inclusions)
    (hseen : ∀ name ∈ seen, ∀ n, row name = some n → Fits inclusions name n)
    (hrow : row.Consistent inclusions) :
    ∀ i ∈ inclusions, ∀ m, row i.aliasName = some m →
      m.cells.length = i.columnNames.length := by
  induction inclusions generalizing seen with
  | nil => exact fun i hi => absurd hi List.not_mem_nil
  | cons i rest ih =>
    obtain ⟨hparent, -, -, htree⟩ := htree
    obtain ⟨hat, hrow⟩ := List.forall_mem_cons.1 hrow
    have hfits : ∀ m, row i.aliasName = some m →
        m.cells.length = i.columnNames.length ∧ Fits rest i.aliasName m := by
      intro m hm
      rw [hm] at hat
      exact Fits.of_mem_partners (hseen i.parent hparent) hat
    refine List.forall_mem_cons.2 ⟨fun m hm => (hfits m hm).1, ih htree ?_ hrow⟩
    refine List.forall_mem_cons.2 ⟨fun m hm => (hfits m hm).2, ?_⟩
    exact fun name hname n hn => (hseen name hname n hn).2

/-- The rows of joins have as many cells as there are columns. -/
theorem Foldable.fills (hf : Foldable s h roots) (hrow : row ∈ joinedRows s.inclusions roots) :
    Fills s.inclusions h row where
  own := by
    obtain ⟨root, hroot, hbase⟩ := exists_root_of_mem_joinedRows hf.tree hrow
    rw [ownCells, hbase, Option.map_some, Option.getD_some, hf.siblings.width root hroot]
  joined := by
    obtain ⟨root, hroot, hbase⟩ := exists_root_of_mem_joinedRows hf.tree hrow
    obtain ⟨-, -, -, hconsistent⟩ := (mem_joinedRows hf.tree).1 hrow
    have hseen : ∀ name ∈ [Compile.baseAlias], ∀ n, row name = some n →
        Fits s.inclusions name n := by
      intro name hname n hn
      obtain rfl := List.mem_singleton.1 hname
      obtain rfl : root = n := Option.some_inj.1 (hbase.symm.trans hn)
      exact hf.fits root hroot
    intro i hi
    rw [cellsAt]
    cases hm : row i.aliasName with
    | none => rw [Option.map_none, Option.getD_none, List.length_replicate]
    | some m =>
      exact length_cells_of_consistent hf.tree hseen hconsistent i hi m hm

/-! ## One joined table -/

theorem relationNames_cons_of_parent (hparent : i.parent = aliasName) :
    relationNames (i :: rest) aliasName = i.relation :: relationNames rest aliasName := by
  rw [relationNames, List.filter_cons, if_pos (decide_eq_true hparent), List.map_cons,
    relationNames]

theorem relationNames_cons_of_not_parent (hparent : i.parent ≠ aliasName) :
    relationNames (i :: rest) aliasName = relationNames rest aliasName := by
  rw [relationNames, List.filter_cons, decide_eq_false hparent, if_neg Bool.false_ne_true,
    relationNames]

/-- What is known about joined rows in which a row of one table stands, while the tables that are
joined to it are folded. -/
structure Folds (s : Statement) (h : Heading) (rest : List Inclusion) (aliasName : String)
    (n : Nested) (rows : List JoinedRow) : Prop where
  inclusions : rest.Sublist s.inclusions
  spans : Spans rest aliasName n rows
  fits : Fits rest aliasName n
  fills : ∀ row ∈ rows, Fills s.inclusions h row

theorem cellsAt_of_some (hm : row i.aliasName = some m) : cellsAt row i = m.cells := by
  rw [cellsAt, hm, Option.map_some, Option.getD_some]

/-- The rows of a joined table that are related to the row of its parent. -/
theorem Folds.siblings (hf : Folds s h (i :: rest) i.parent n rows) :
    Siblings i.columnNames.length (n.related i.aliasName) :=
  (hf.fits.1 rfl).1

/-- A related row appears in the joined rows that hold it. -/
theorem Folds.appearsIn_iff (hf : Folds s h (i :: rest) i.parent n rows)
    (hm : m ∈ n.related i.aliasName) :
    ∀ row ∈ rows, appearsIn i.aliasName m row = true ↔ row i.aliasName = some m :=
  fun _ hrow => hf.siblings.appearsIn_iff hm fun _ => hf.spans.mem_related hrow

/-- The tables after the next one are folded in the same rows. -/
theorem Folds.tail (htree : IsTree seen (i :: rest)) (hf : Folds s h (i :: rest) aliasName n rows) :
    Folds s h rest aliasName n rows where
  inclusions := (List.sublist_cons_self i rest).trans hf.inclusions
  spans := hf.spans.tail htree
  fits := hf.fits.2
  fills := hf.fills

/-- Below a related row, the tables after it are folded in the joined rows in which it appears. -/
theorem Folds.below (htree : IsTree seen (i :: rest)) (hf : Folds s h (i :: rest) i.parent n rows)
    (hm : m ∈ n.related i.aliasName) :
    Folds s h rest i.aliasName m (rows.filter (appearsIn i.aliasName m)) where
  inclusions := (List.sublist_cons_self i rest).trans hf.inclusions
  spans := hf.spans.below htree hm (hf.appearsIn_iff hm)
  fits := ((hf.fits.1 rfl).2 m hm).2
  fills := fun row hrow => hf.fills row (List.mem_of_mem_filter hrow)

/-- The record of cells under different keys. -/
theorem recordOf_of_nodup {slots : List Slot} {keys : List String} {values : List Value}
    (hslots : slots.map (·.key) = keys) (hnodup : keys.Nodup)
    (hlength : values.length = keys.length) : recordOf slots values = keys.zip values := by
  rw [recordOf, hslots, Dict.ofList_of_nodup]
  rwa [Dict.keys_zip hlength]

section Joined

variable (ht : Told s.inclusions h) (hnodup : (aliases s.inclusions).Nodup)
include ht hnodup

/-- The rows that have a cell in a joined table are those that hold a row of it. -/
theorem presentRows_map_flatten (hf : Folds s h (i :: rest) i.parent n rows) :
    presentRows (joinedSlots s (h.names s.inclusions) i.aliasName)
        (rows.map (flatten h s.inclusions)) =
      (rows.filter fun row => (row i.aliasName).isSome).map (flatten h s.inclusions) := by
  have hi : i ∈ s.inclusions := hf.inclusions.subset List.mem_cons_self
  rw [presentRows, List.filter_map]
  refine congrArg _ (List.filter_congr ?_)
  intro row hrow
  rw [Function.comp_apply, cells_joinedSlots ht hnodup hi (hf.fills row hrow)]
  cases hm : row i.aliasName with
  | none => simp [cellsAt, hm, Value.isNull]
  | some m =>
    rw [cellsAt_of_some hm, ((hf.fits.1 rfl).2 m (hf.spans.mem_related hrow hm)).1,
      Option.isSome_some]

/-- The rows of a joined table are grouped into those that are related to the row of its parent. -/
theorem groupRows_presentRows (htree : IsTree seen (i :: rest))
    (hf : Folds s h (i :: rest) i.parent n rows) :
    groupRows (joinedSlots s (h.names s.inclusions) i.aliasName)
        (presentRows (joinedSlots s (h.names s.inclusions) i.aliasName)
          (rows.map (flatten h s.inclusions))) =
      groupsOf (rowsOf (flatten h s.inclusions) rows i.aliasName)
        (inOrder rows i.aliasName (n.related i.aliasName)) := by
  have hi : i ∈ s.inclusions := hf.inclusions.subset List.mem_cons_self
  rw [presentRows_map_flatten ht hnodup hf]
  refine groupRows_of_siblings hf.siblings (fun row hrow m => hf.spans.mem_related hrow) ?_ ?_
  · intro row hrow m hm
    rw [cells_joinedSlots ht hnodup hi (hf.fills row hrow), cellsAt_of_some hm]
  · intro m hm
    have hbelow := (hf.below htree hm).spans
    obtain ⟨row, hrow⟩ := List.exists_mem_of_ne_nil _ hbelow.nonempty
    exact ⟨row, List.mem_of_mem_filter hrow, hbelow.holds row hrow⟩

/-- Folding the joined tables under a row puts its relations into the record. -/
theorem nest_layoutsBelow
    (hkeys : ∀ i ∈ s.inclusions, (i.columnNames.map fieldName ++
      relationNames s.inclusions i.aliasName).Nodup)
    (htree : IsTree seen rest) (hf : Folds s h rest aliasName n rows) {record : Record}
    (hrecord : (Dict.keys record ++ relationNames rest aliasName).Nodup) :
    nest (layoutsBelow s (h.names s.inclusions) aliasName rest)
        (rows.map (flatten h s.inclusions)) record =
      record ++ relationsOf rows rest aliasName n := by
  induction rest generalizing seen aliasName n rows record with
  | nil => rw [layoutsBelow, nest, relationsOf, List.append_nil]
  | cons i rest ih =>
    by_cases hparent : i.parent = aliasName
    · subst hparent
      have hi : i ∈ s.inclusions := hf.inclusions.subset List.mem_cons_self
      have hnames : (relationNames rest i.aliasName).Sublist
          (relationNames s.inclusions i.aliasName) :=
        ((hf.tail htree).inclusions.filter _).map _
      rw [relationNames_cons_of_parent rfl, List.append_cons] at hrecord
      have hnew : i.relation ∉ Dict.keys record := fun hmem =>
        (List.nodup_append.1 (List.nodup_append.1 hrecord).1).2.2 _ hmem _ List.mem_cons_self rfl
      rw [layoutsBelow, if_pos ⟨rfl, htree.2.2.1⟩, relationsOf, if_pos rfl, nest,
        Dict.put_of_notMem hnew, ih htree.2.2.2 (hf.tail htree), List.append_assoc,
        List.singleton_append, Layout.records, groupRows_presentRows ht hnodup htree hf, groupsOf,
        List.map_map]
      · refine congrArg (fun related => record ++ (i.relation, relationValue i.isList related) :: _)
          (List.map_congr_left ?_)
        intro m hm
        have hm : m ∈ n.related i.aliasName := (perm_inOrder rows i.aliasName _).mem_iff.1 hm
        have hlength : m.cells.length = (i.columnNames.map fieldName).length := by
          rw [hf.siblings.width m hm, List.length_map]
        have hcolumns := (List.nodup_append.1 (hkeys i hi)).1
        rw [Function.comp_apply, rowsOf,
          recordOf_of_nodup (keys_joinedSlots ht hnodup hi) hcolumns hlength]
        refine ih htree.2.2.2 (hf.below htree hm) ?_
        rw [Dict.keys_zip hlength]
        exact (hkeys i hi).sublist ((List.Sublist.refl _).append hnames)
      · rwa [Dict.keys, List.map_append]
    · rw [relationNames_cons_of_not_parent hparent] at hrecord
      rw [layoutsBelow, if_neg (fun hand => hparent hand.1), relationsOf, if_neg hparent,
        ih htree.2.2.2 (hf.tail htree) hrecord]

end Joined

/-! ## The queried table -/

/-- Where rows differ, a read without inclusions folds them like any other. -/
theorem records_eq_map_groupRows {r : ResultSet}
    (h : s.inclusions = [] → r.rows.Pairwise fun row other =>
      sameCells (cells (baseSlots s r.names) row) (cells (baseSlots s r.names) other) = false) :
    records s r = (groupRows (baseSlots s r.names) r.rows).map fun group =>
      nest (layoutsBelow s r.names Compile.baseAlias s.inclusions) group.rows
        (recordOf (baseSlots s r.names) group.cells) := by
  rw [records]
  cases hi : s.inclusions with
  | nil =>
    rw [List.isEmpty_nil, if_pos rfl, groupRows_of_pairwise (h hi), List.map_map]
    refine List.map_congr_left ?_
    intro row _
    rw [Function.comp_apply, layoutsBelow, nest]
  | cons i rest => rw [List.isEmpty_cons, if_neg Bool.false_ne_true]

/-- Without inclusions, the rows of nested rows differ. -/
theorem Foldable.pairwise_ownCells (hf : Foldable s h roots) (hi : s.inclusions = [])
    (hrows : rows.Perm (joinedRows s.inclusions roots)) :
    rows.Pairwise fun row other => Differ (ownCells row) (ownCells other) := by
  have hown : ∀ root, ownCells (unjoined root) = root.cells := by
    intro root
    rw [ownCells, unjoined, Function.update_self, Option.map_some, Option.getD_some]
  rw [hi] at hrows
  refine (hrows.pairwise_iff fun hdiffer => And.symm hdiffer).2 ?_
  rw [joinedRows, List.foldl_nil, List.pairwise_map]
  simp only [hown]
  exact hf.siblings.differ

/-- The queried table is folded in the joined rows in which one of its rows appears. -/
theorem Foldable.folds (hf : Foldable s h roots)
    (hrows : rows.Perm (joinedRows s.inclusions roots)) (hn : n ∈ roots) :
    Folds s h s.inclusions Compile.baseAlias n
      (rows.filter (appearsIn Compile.baseAlias n)) where
  inclusions := List.Sublist.refl _
  spans := by
    refine spans_joinedRows hf.tree hrows hn ?_
    intro row hrow
    refine hf.siblings.appearsIn_iff hn ?_
    intro m hm
    obtain ⟨root, hroot, hbase⟩ := exists_root_of_mem_joinedRows hf.tree (hrows.mem_iff.1 hrow)
    rwa [← Option.some_inj.1 (hbase.symm.trans hm)]
  fits := hf.fits n hn
  fills := fun _ hrow => hf.fills (hrows.mem_iff.1 (List.mem_of_mem_filter hrow))

/-- The rows of joins are grouped by the rows of the queried table. -/
theorem groupRows_baseSlots (hf : Foldable s h roots) (ht : Told s.inclusions h)
    (hrows : rows.Perm (joinedRows s.inclusions roots)) :
    groupRows (baseSlots s (h.names s.inclusions)) (rows.map (flatten h s.inclusions)) =
      groupsOf (rowsOf (flatten h s.inclusions) rows Compile.baseAlias)
        (inOrder rows Compile.baseAlias roots) := by
  have hroot : ∀ row ∈ rows, ∃ root ∈ roots, row Compile.baseAlias = some root :=
    fun row hrow => exists_root_of_mem_joinedRows hf.tree (hrows.mem_iff.1 hrow)
  have hall : (rows.filter fun row => (row Compile.baseAlias).isSome) = rows := by
    refine List.filter_eq_self.2 ?_
    intro row hrow
    obtain ⟨root, -, hbase⟩ := hroot row hrow
    rw [hbase, Option.isSome_some]
  nth_rewrite 1 [← hall]
  refine groupRows_of_siblings hf.siblings ?_ ?_ ?_
  · intro row hrow n hn
    obtain ⟨root, hmem, hbase⟩ := hroot row hrow
    rwa [← Option.some_inj.1 (hbase.symm.trans hn)]
  · intro row hrow n hn
    rw [cells_baseSlots ht (hf.fills (hrows.mem_iff.1 hrow)), ownCells, hn, Option.map_some,
      Option.getD_some]
  · intro n hn
    have hspans := (hf.folds hrows hn).spans
    obtain ⟨row, hrow⟩ := List.exists_mem_of_ne_nil _ hspans.nonempty
    exact ⟨row, List.mem_of_mem_filter hrow, hspans.holds row hrow⟩

/-- Folding undoes joining: from the rows of left joins, in any order, come the records of the nested
rows, in the order of their first appearances. -/
theorem records_of_perm_joinedRows (hf : Foldable s h roots) (ht : Told s.inclusions h)
    (hrows : rows.Perm (joinedRows s.inclusions roots)) (types : List ColumnType)
    (lastInsertId : Option String) :
    records s ⟨h.names s.inclusions, types, rows.map (flatten h s.inclusions), lastInsertId⟩ =
      nestedRecords s h rows roots := by
  rw [records_eq_map_groupRows, groupRows_baseSlots hf ht hrows, groupsOf, List.map_map,
    nestedRecords]
  · refine List.map_congr_left ?_
    intro n hn
    have hn : n ∈ roots := (perm_inOrder rows Compile.baseAlias roots).mem_iff.1 hn
    have hkeys := hf.ownKeys
    rw [ownKeys_eq] at hkeys ⊢
    have hcolumns := (List.nodup_append.1 hkeys).1
    have hlength : n.cells.length = (h.own.map (baseKey s.computed)).length := by
      rw [hf.siblings.width n hn, List.length_map]
    rw [Function.comp_apply, rowsOf, recordOf_of_nodup (keys_baseSlots ht) hcolumns hlength]
    refine nest_layoutsBelow ht hf.tree.nodup_aliases hf.joinedKeys hf.tree (hf.folds hrows hn) ?_
    rwa [Dict.keys_zip hlength]
  · intro hi
    rw [List.pairwise_map]
    refine (hf.pairwise_ownCells hi hrows).imp_of_mem ?_
    intro row other hrow hother hdiffer
    rw [cells_baseSlots ht (hf.fills (hrows.mem_iff.1 hrow)),
      cells_baseSlots ht (hf.fills (hrows.mem_iff.1 hother))]
    exact hdiffer.1

/-- Rows can be put in order by insertion, which is evaluated step by step. -/
theorem inOrder_eq_sortByKey (rows : List JoinedRow) (aliasName : String) (ns : List Nested) :
    inOrder rows aliasName ns = sortByKey (fun n => rows.findIdx (appearsIn aliasName n)) ns :=
  (sortByKey_eq_mergeSort _ _).symm

/-- A row with related rows under the aliases of their tables. -/
def Nested.of (cells : List Value) (related : Dict (List Nested)) : Nested :=
  .node cells fun aliasName => (related.get? aliasName).getD []

/-- A read of users with their posts, the comments on these and their profiles. -/
def readUsers : Statement where
  sql := ""
  args := []
  inclusions := [⟨"posts", "t1", "t0", true, some ["id"]⟩,
    ⟨"comments", "t2", "t1", true, some ["id"]⟩,
    ⟨"profile", "t3", "t0", false, some ["motto"]⟩]

/-- The columns of a user. -/
def userHeading : Heading := ⟨["id", "full_name"], []⟩

/-- Two users of one name: the first has two posts, one of them with two comments, and the second a
profile. -/
def users : List Nested :=
  [.of [.int 1, .text "Ann"] [("t1", [.of [.int 7] [("t2", [.of [.int 70] [], .of [.int 71] []])],
      .of [.int 8] []])],
    .of [.int 2, .text "Ann"] [("t3", [.of [.text "carpe diem"] []])]]

/-- The rows of the users arrive last row first, and so do the records. -/
theorem records_users :
    Foldable readUsers userHeading users ∧ Told readUsers.inclusions userHeading ∧
      records readUsers ⟨userHeading.names readUsers.inclusions, [],
        (joinedRows readUsers.inclusions users).reverse.map
          (flatten userHeading readUsers.inclusions), none⟩ =
        [[("id", .int 2), ("fullName", .text "Ann"), ("posts", .list []),
            ("profile", .object [("motto", .text "carpe diem")])],
          [("id", .int 1), ("fullName", .text "Ann"),
            ("posts", .list [.object [("id", .int 8), ("comments", .list [])],
              .object [("id", .int 7),
                ("comments", .list [.object [("id", .int 71)], .object [("id", .int 70)]])]]),
            ("profile", .null)]] := by
  have hfoldable : Foldable readUsers userHeading users :=
    ⟨by decide, by decide, by decide, by decide, by decide⟩
  have htold : Told readUsers.inclusions userHeading := ⟨by decide, by decide⟩
  refine ⟨hfoldable, htold, ?_⟩
  rw [records_of_perm_joinedRows hfoldable htold (List.reverse_perm _)]
  simp only [nestedRecords, readUsers, relationsOf, inOrder_eq_sortByKey]
  with_unfolding_all rfl

/-- A read of users with their posts. -/
def readTotals : Statement where
  sql := ""
  args := []
  inclusions := [⟨"posts", "t1", "t0", true, some ["id"]⟩]

/-- The columns of a user, one of which is named like a column of the posts. -/
def totalHeading : Heading := ⟨["id", "t1__total"], []⟩

/-- A user with a total and a post. -/
def totals : List Nested := [.of [.int 1, .int 9] [("t1", [.of [.int 7] []])]]

/-- A column of the queried table that is named like one of a joined table is folded into the records
of that table. -/
theorem records_totals :
    Foldable readTotals totalHeading totals ∧
      records readTotals ⟨totalHeading.names readTotals.inclusions, [],
        (joinedRows readTotals.inclusions totals).map
          (flatten totalHeading readTotals.inclusions), none⟩ ≠
        nestedRecords readTotals totalHeading (joinedRows readTotals.inclusions totals) totals := by
  refine ⟨⟨by decide, by decide, by decide, by decide, by decide⟩, ?_⟩
  have hfolded : records readTotals ⟨totalHeading.names readTotals.inclusions, [],
      (joinedRows readTotals.inclusions totals).map
        (flatten totalHeading readTotals.inclusions), none⟩ =
      [[("id", .int 1), ("posts", .list [.object [("total", .int 9), ("id", .int 7)]])]] := by
    with_unfolding_all rfl
  have hnested : nestedRecords readTotals totalHeading
      (joinedRows readTotals.inclusions totals) totals =
      [[("id", .int 1), ("t1Total", .int 9), ("posts", .list [.object [("id", .int 7)]])]] := by
    with_unfolding_all rfl
  rw [hfolded, hnested]
  intro h
  have hlength := congrArg (List.map List.length) h
  cases hlength

end Execute

end RelationalQuery
