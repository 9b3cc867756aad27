import Mathlib.Data.List.Nodup
import RelationalQuery.Proofs.Execute.Joined

/-!
# Columns of joined rows

The answer to a read with inclusions names a column of a joined table `alias__column`, and a column
of the queried table as it likes. `flatten` lays a joined row out in such columns, and the slots of
`Execute` find the cells of each table again if the names tell whose they are (`Told`).

A column of the queried table whose own name begins with `alias__` is taken for one of the joined
table; `Told` excludes it.
-/

namespace RelationalQuery

/-- The columns of a joined table, if they are known. -/
def Inclusion.columnNames (i : Inclusion) : List String := i.columns.getD []

namespace Execute

/-! ## Flat rows -/

/-- The columns of the queried table in an answer. Computed fields stand after the columns of joined
tables, the others before them. -/
structure Heading where
  before : List String
  after : List String

namespace Heading

/-- All columns of the queried table. -/
def own (h : Heading) : List String := h.before ++ h.after

/-- The columns of an answer. -/
def names (h : Heading) (inclusions : List Inclusion) : List String :=
  h.before ++ inclusions.flatMap (fun i => i.columnNames.map i.columnAlias) ++ h.after

end Heading

/-- The cells that a joined row has in the columns of a joined table: nulls if there is no row. -/
def cellsAt (row : JoinedRow) (i : Inclusion) : List Value :=
  ((row i.aliasName).map Nested.cells).getD (List.replicate i.columnNames.length .null)

/-- The cells that a joined row has in the columns of the queried table. -/
def ownCells (row : JoinedRow) : List Value :=
  ((row Compile.baseAlias).map Nested.cells).getD []

/-- A joined row in the columns of an answer. -/
def flatten (h : Heading) (inclusions : List Inclusion) (row : JoinedRow) : Row :=
  (ownCells row).take h.before.length ++ inclusions.flatMap (cellsAt row) ++
    (ownCells row).drop h.before.length

/-- Whether every column is told to belong to the table from which it is selected. -/
structure Told (inclusions : List Inclusion) (h : Heading) : Prop where
  own : ∀ name ∈ h.own, ∀ i ∈ inclusions, columnOf? i.aliasName name = none
  joined : ∀ i ∈ inclusions, ∀ j ∈ inclusions, j ≠ i → ∀ column ∈ i.columnNames,
    columnOf? j.aliasName (i.columnAlias column) = none

/-- Whether a joined row has as many cells as there are columns. -/
structure Fills (inclusions : List Inclusion) (h : Heading) (row : JoinedRow) : Prop where
  own : (ownCells row).length = h.own.length
  joined : ∀ i ∈ inclusions, (cellsAt row i).length = i.columnNames.length

/-! ## Owners of columns -/

variable {s : Statement} {h : Heading} {i : Inclusion} {inclusions : List Inclusion}
  {row : JoinedRow}

/-- A column belongs to a joined table if its name begins with the alias of the table. -/
theorem columnOf?_eq_some_iff {aliasName name column : String} :
    columnOf? aliasName name = some column ↔ Inclusion.aliasOf aliasName column = name := by
  rw [columnOf?, Option.map_eq_some_iff]
  simp only [List.isPrefixOf?_eq_some_iff_append_eq, Inclusion.aliasOf, String.append_empty]
  constructor
  · rintro ⟨chars, hname, rfl⟩
    rw [← String.toList_inj, String.toList_append, String.toList_ofList]
    exact hname
  · rintro rfl
    exact ⟨column.toList, String.toList_append.symm, String.ofList_toList⟩

/-- A column of the queried table belongs to no joined table. -/
theorem Told.owner?_own (ht : Told inclusions h) {name : String} (hname : name ∈ h.own) :
    owner? inclusions name = none := by
  rw [owner?, List.findSome?_eq_none_iff]
  intro i hi
  rw [ht.own name hname i hi, Option.map_none]

theorem columnOf?_columnAlias (i : Inclusion) (column : String) :
    columnOf? i.aliasName (i.columnAlias column) = some column :=
  columnOf?_eq_some_iff.2 rfl

/-- A column belongs to a joined table if no other one claims it. -/
theorem owner?_columnAlias (hi : i ∈ inclusions) {column : String}
    (h : ∀ j ∈ inclusions, ∀ other, columnOf? j.aliasName (i.columnAlias column) = some other →
      j.aliasName = i.aliasName ∧ other = column) :
    owner? inclusions (i.columnAlias column) = some (i.aliasName, column) := by
  cases howner : owner? inclusions (i.columnAlias column) with
  | none =>
    have hnone := List.findSome?_eq_none_iff.1 howner i hi
    rw [columnOf?_columnAlias] at hnone
    cases hnone
  | some found =>
    obtain ⟨j, hj, hfound⟩ := List.exists_of_findSome?_eq_some howner
    obtain ⟨other, hother, rfl⟩ := Option.map_eq_some_iff.1 hfound
    obtain ⟨halias, rfl⟩ := h j hj other hother
    rw [halias]

/-- A column of a joined table belongs to that table. -/
theorem Told.owner?_joined (ht : Told inclusions h) (hi : i ∈ inclusions) {column : String}
    (hcolumn : column ∈ i.columnNames) :
    owner? inclusions (i.columnAlias column) = some (i.aliasName, column) := by
  refine owner?_columnAlias hi ?_
  intro j hj other hother
  obtain rfl : j = i := by
    by_contra hne
    rw [ht.joined i hi j hj hne column hcolumn] at hother
    cases hother
  rw [columnOf?_columnAlias] at hother
  exact ⟨rfl, (Option.some_inj.1 hother).symm⟩

/-! ## Cells of one table -/

/-- The places of the columns to which `key?` gives a key. -/
def slotsWhere (key? : String → Option String) (names : List String) : List Slot :=
  names.zipIdx.filterMap fun entry => (key? entry.1).map fun key => ⟨entry.2, key⟩

/-- The keys of columns are those that `key?` gives them. -/
theorem keys_slotsWhere (key? : String → Option String) (names : List String) :
    (slotsWhere key? names).map (·.key) = names.filterMap key? := by
  rw [slotsWhere, List.map_filterMap]
  simp only [Option.map_map, Function.comp_def, Option.map_id']
  rw [← Function.comp_def key? Prod.fst, ← List.filterMap_map, List.zipIdx_map_fst]

/-- From some column on, the cells in the columns to which `key?` gives a key. -/
theorem filterMap_zipIdx (key? : String → Option String) {names : List String} {before after : Row}
    (hlength : after.length = names.length) :
    ((names.zipIdx before.length).filterMap fun entry =>
        (key? entry.1).map fun _ => (before ++ after)[entry.2]?.getD .null) =
      (names.zip after).filterMap fun entry => (key? entry.1).map fun _ => entry.2 := by
  induction names generalizing before after with
  | nil => rfl
  | cons name rest ih =>
    cases after with
    | nil => cases hlength
    | cons value after =>
      have hrest := @ih (before ++ [value]) after (Nat.succ.inj hlength)
      rw [List.length_append, List.length_singleton, List.append_assoc,
        List.singleton_append] at hrest
      rw [List.zipIdx_cons, List.zip_cons_cons, List.filterMap_cons, List.filterMap_cons, hrest,
        List.getElem?_append_right (Nat.le_refl _), Nat.sub_self, List.getElem?_cons_zero,
        Option.getD_some]

/-- The cells in the columns to which `key?` gives a key. -/
theorem cells_slotsWhere (key? : String → Option String) {names : List String} {row : Row}
    (hlength : row.length = names.length) :
    cells (slotsWhere key? names) row =
      (names.zip row).filterMap fun entry => (key? entry.1).map fun _ => entry.2 := by
  have h := @filterMap_zipIdx key? names [] row hlength
  rw [List.length_nil, List.nil_append] at h
  rw [← h, cells, slotsWhere, List.map_filterMap]
  simp only [Option.map_map, Function.comp_def]

/-! ## Columns in blocks

The columns of an answer, and with them the cells of a row, stand in blocks: some of the queried
table, those of one joined table after the other, and again some of the queried table. -/

section Blocks

variable {α β : Type} {f : α → Option β} {before after : List α} {block : Inclusion → List α}

/-- Of blocks in which nothing is kept, nothing is kept. -/
theorem filterMap_flatMap_eq_nil (h : ∀ i ∈ inclusions, ∀ a ∈ block i, f a = none) :
    (inclusions.flatMap block).filterMap f = [] := by
  rw [List.filterMap_eq_nil_iff]
  intro a ha
  obtain ⟨i, hi, ha⟩ := List.mem_flatMap.1 ha
  exact h i hi a ha

/-- What is kept of blocks if nothing is kept of joined tables. -/
theorem filterMap_own (h : ∀ i ∈ inclusions, ∀ a ∈ block i, f a = none) :
    (before ++ inclusions.flatMap block ++ after).filterMap f = (before ++ after).filterMap f := by
  rw [List.filterMap_append, List.filterMap_append, filterMap_flatMap_eq_nil h, List.append_nil,
    ← List.filterMap_append]

/-- What is kept of blocks if something is kept of one joined table alone. -/
theorem filterMap_joined (hi : i ∈ inclusions) (hnodup : inclusions.Nodup)
    (hown : ∀ a ∈ before ++ after, f a = none)
    (hoff : ∀ j ∈ inclusions, j ≠ i → ∀ a ∈ block j, f a = none) :
    (before ++ inclusions.flatMap block ++ after).filterMap f = (block i).filterMap f := by
  have hbefore : before.filterMap f = [] :=
    List.filterMap_eq_nil_iff.2 fun a ha => hown a (List.mem_append_left _ ha)
  have hafter : after.filterMap f = [] :=
    List.filterMap_eq_nil_iff.2 fun a ha => hown a (List.mem_append_right _ ha)
  obtain ⟨first, last, rfl⟩ := List.append_of_mem hi
  have hnot : i ∉ first ++ last := (List.nodup_cons.1 (List.nodup_middle.1 hnodup)).1
  have hother : ∀ j ∈ first ++ last, ∀ a ∈ block j, f a = none := by
    intro j hj
    refine hoff j ?_ (ne_of_mem_of_not_mem hj hnot)
    exact (List.perm_middle.mem_iff).2 (List.mem_cons_of_mem _ hj)
  rw [List.forall_mem_append] at hother
  rw [List.filterMap_append, List.filterMap_append, hbefore, hafter, List.nil_append,
    List.append_nil, List.flatMap_append, List.flatMap_cons, List.filterMap_append,
    List.filterMap_append, filterMap_flatMap_eq_nil hother.1, filterMap_flatMap_eq_nil hother.2,
    List.nil_append, List.append_nil]

/-- Where every column of a block is kept, its cells are kept. -/
theorem filterMap_zip {key? : String → Option String} {names : List String} {values : List Value}
    (hlength : values.length = names.length) (h : ∀ name ∈ names, (key? name).isSome) :
    ((names.zip values).filterMap fun entry => (key? entry.1).map fun _ => entry.2) = values := by
  have hsome : ∀ entry ∈ names.zip values,
      ((key? entry.1).map fun _ => entry.2) = some entry.2 := by
    intro entry hentry
    obtain ⟨key, hkey⟩ := Option.isSome_iff_exists.1 (h entry.1 (List.of_mem_zip hentry).1)
    rw [hkey, Option.map_some]
  rw [List.filterMap_congr hsome, List.filterMap_eq_map', List.map_snd_zip (Nat.le_of_eq hlength)]

end Blocks

/-- Blocks of names beside blocks of cells. -/
theorem zip_flatMap {names : Inclusion → List String} {values : Inclusion → List Value}
    (h : ∀ i ∈ inclusions, (names i).length = (values i).length) :
    (inclusions.flatMap names).zip (inclusions.flatMap values) =
      inclusions.flatMap fun i => (names i).zip (values i) := by
  induction inclusions with
  | nil => rfl
  | cons i rest ih =>
    obtain ⟨hi, hrest⟩ := List.forall_mem_cons.1 h
    rw [List.flatMap_cons, List.flatMap_cons, List.flatMap_cons, List.zip_append hi, ih hrest]

/-- The cells before those of joined tables are as many as the columns there. -/
theorem Fills.length_before (hrow : Fills inclusions h row) :
    h.before.length = ((ownCells row).take h.before.length).length := by
  rw [List.length_take, hrow.own, Heading.own, List.length_append]
  omega

/-- A joined row has as many cells as an answer has columns. -/
theorem length_flatten (hrow : Fills inclusions h row) :
    (flatten h inclusions row).length = (h.names inclusions).length := by
  have hjoined : (inclusions.flatMap (cellsAt row)).length =
      (inclusions.flatMap fun i => i.columnNames.map i.columnAlias).length := by
    rw [List.length_flatMap, List.length_flatMap]
    refine congrArg List.sum (List.map_congr_left ?_)
    intro i hi
    rw [hrow.joined i hi, List.length_map]
  have hown := hrow.own
  rw [Heading.own, List.length_append] at hown
  simp only [flatten, Heading.names, List.length_append, List.length_take, List.length_drop,
    hjoined]
  omega

/-- The columns of an answer beside the cells of a joined row, in blocks. -/
theorem zip_flatten (hrow : Fills inclusions h row) :
    (h.names inclusions).zip (flatten h inclusions row) =
      h.before.zip ((ownCells row).take h.before.length) ++
        inclusions.flatMap (fun i => (i.columnNames.map i.columnAlias).zip (cellsAt row i)) ++
        h.after.zip ((ownCells row).drop h.before.length) := by
  have hjoined : ∀ i ∈ inclusions,
      (i.columnNames.map i.columnAlias).length = (cellsAt row i).length := by
    intro i hi
    rw [hrow.joined i hi, List.length_map]
  rw [Heading.names, flatten, List.append_assoc, List.append_assoc, List.zip_append hrow.length_before,
    List.zip_append, zip_flatMap hjoined, List.append_assoc]
  rw [List.length_flatMap, List.length_flatMap]
  exact congrArg List.sum (List.map_congr_left hjoined)

/-! ## Cells and keys of the queried table -/

/-- The key of a column of the queried table. -/
def ownKey? (s : Statement) (name : String) : Option String :=
  if (owner? s.inclusions name).isNone then some (baseKey s.computed name) else none

/-- The key of a column of a joined table. -/
def joinedKey? (s : Statement) (aliasName name : String) : Option String :=
  (owner? s.inclusions name).bind fun owner =>
    if owner.1 = aliasName then some (fieldName owner.2) else none

theorem baseSlots_eq (s : Statement) (names : List String) :
    baseSlots s names = slotsWhere (ownKey? s) names := by
  refine List.filterMap_congr ?_
  intro entry _
  unfold ownKey?
  cases owner? s.inclusions entry.1 <;> rfl

theorem joinedSlots_eq (s : Statement) (names : List String) (aliasName : String) :
    joinedSlots s names aliasName = slotsWhere (joinedKey? s aliasName) names := by
  refine List.filterMap_congr ?_
  intro entry _
  unfold joinedKey?
  cases owner? s.inclusions entry.1 with
  | none => rfl
  | some owner =>
    by_cases h : owner.1 = aliasName
    · simp [h]
    · simp [h]

theorem Told.ownKey?_own (ht : Told s.inclusions h) {name : String} (hname : name ∈ h.own) :
    ownKey? s name = some (baseKey s.computed name) := by
  rw [ownKey?, ht.owner?_own hname]
  rfl

theorem Told.ownKey?_joined (ht : Told s.inclusions h) (hi : i ∈ s.inclusions) {column : String}
    (hcolumn : column ∈ i.columnNames) : ownKey? s (i.columnAlias column) = none := by
  rw [ownKey?, ht.owner?_joined hi hcolumn]
  rfl

theorem Told.joinedKey?_own (ht : Told s.inclusions h) {name aliasName : String}
    (hname : name ∈ h.own) : joinedKey? s aliasName name = none := by
  rw [joinedKey?, ht.owner?_own hname, Option.bind_none]

theorem Told.joinedKey?_joined (ht : Told s.inclusions h) (hi : i ∈ s.inclusions)
    {column : String} (hcolumn : column ∈ i.columnNames) (aliasName : String) :
    joinedKey? s aliasName (i.columnAlias column) =
      if i.aliasName = aliasName then some (fieldName column) else none := by
  rw [joinedKey?, ht.owner?_joined hi hcolumn, Option.bind_some]

/-- The keys of the queried table are those of its columns. -/
theorem keys_baseSlots (ht : Told s.inclusions h) :
    (baseSlots s (h.names s.inclusions)).map (·.key) = h.own.map (baseKey s.computed) := by
  rw [baseSlots_eq, keys_slotsWhere, Heading.names, filterMap_own, ← Heading.own,
    List.filterMap_congr fun name hname => ht.ownKey?_own hname, List.filterMap_eq_map']
  intro i hi name hname
  obtain ⟨column, hcolumn, rfl⟩ := List.mem_map.1 hname
  exact ht.ownKey?_joined hi hcolumn

/-- The cells of the queried table are found again. -/
theorem cells_baseSlots (ht : Told s.inclusions h) (hrow : Fills s.inclusions h row) :
    cells (baseSlots s (h.names s.inclusions)) (flatten h s.inclusions row) = ownCells row := by
  have hblocks : h.before.zip ((ownCells row).take h.before.length) ++
      h.after.zip ((ownCells row).drop h.before.length) = h.own.zip (ownCells row) := by
    rw [← List.zip_append hrow.length_before, List.take_append_drop, Heading.own]
  rw [baseSlots_eq, cells_slotsWhere _ (length_flatten hrow), zip_flatten hrow, filterMap_own,
    hblocks, filterMap_zip hrow.own]
  · intro name hname
    rw [ht.ownKey?_own hname, Option.isSome_some]
  · intro i hi entry hentry
    obtain ⟨column, hcolumn, hname⟩ := List.mem_map.1 (List.of_mem_zip hentry).1
    rw [← hname, ht.ownKey?_joined hi hcolumn, Option.map_none]

/-! ## Cells and keys of a joined table -/

/-- No other table has a key for a column of a joined table. -/
theorem Told.joinedKey?_other {j : Inclusion} (ht : Told s.inclusions h)
    (hnodup : (aliases s.inclusions).Nodup) (hi : i ∈ s.inclusions) (hj : j ∈ s.inclusions)
    (hne : j ≠ i) {column : String} (hcolumn : column ∈ j.columnNames) :
    joinedKey? s i.aliasName (j.columnAlias column) = none := by
  rw [ht.joinedKey?_joined hj hcolumn, if_neg]
  intro heq
  exact hne (List.inj_on_of_nodup_map hnodup hj hi heq)

/-- The keys of a joined table are those of its columns. -/
theorem keys_joinedSlots (ht : Told s.inclusions h) (hnodup : (aliases s.inclusions).Nodup)
    (hi : i ∈ s.inclusions) :
    (joinedSlots s (h.names s.inclusions) i.aliasName).map (·.key) =
      i.columnNames.map fieldName := by
  have hat : ∀ column ∈ i.columnNames,
      joinedKey? s i.aliasName (i.columnAlias column) = some (fieldName column) := by
    intro column hcolumn
    rw [ht.joinedKey?_joined hi hcolumn, if_pos rfl]
  rw [joinedSlots_eq, keys_slotsWhere, Heading.names, filterMap_joined hi (.of_map _ hnodup),
    List.filterMap_map, ← List.filterMap_eq_map']
  · exact List.filterMap_congr hat
  · exact fun name hname => ht.joinedKey?_own hname
  · intro j hj hne name hname
    obtain ⟨column, hcolumn, rfl⟩ := List.mem_map.1 hname
    exact ht.joinedKey?_other hnodup hi hj hne hcolumn

/-- The cells of a joined table are found again. -/
theorem cells_joinedSlots (ht : Told s.inclusions h) (hnodup : (aliases s.inclusions).Nodup)
    (hi : i ∈ s.inclusions) (hrow : Fills s.inclusions h row) :
    cells (joinedSlots s (h.names s.inclusions) i.aliasName) (flatten h s.inclusions row) =
      cellsAt row i := by
  rw [joinedSlots_eq, cells_slotsWhere _ (length_flatten hrow), zip_flatten hrow,
    filterMap_joined hi (.of_map _ hnodup), filterMap_zip]
  · rw [hrow.joined i hi, List.length_map]
  · intro name hname
    obtain ⟨column, hcolumn, rfl⟩ := List.mem_map.1 hname
    rw [ht.joinedKey?_joined hi hcolumn, if_pos rfl, Option.isSome_some]
  · intro entry hentry
    have hname : entry.1 ∈ h.own := by
      rw [Heading.own, List.mem_append]
      exact (List.mem_append.1 hentry).imp (fun h => (List.of_mem_zip h).1)
        fun h => (List.of_mem_zip h).1
    rw [ht.joinedKey?_own hname, Option.map_none]
  · intro j hj hne entry hentry
    obtain ⟨column, hcolumn, hname⟩ := List.mem_map.1 (List.of_mem_zip hentry).1
    rw [← hname, ht.joinedKey?_other hnodup hi hj hne hcolumn, Option.map_none]

end Execute

end RelationalQuery
