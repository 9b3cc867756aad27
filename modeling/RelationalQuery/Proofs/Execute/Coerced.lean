import Mathlib.Tactic.Tauto
import RelationalQuery.Execute.Coercion
import RelationalQuery.Proofs.Result

/-!
# What coercion leaves and what it changes

A result set of any shape is read as its columns declare it, cell by cell. `coerce_eq_ok_iff` says
which result set comes of it, `coerce_eq_error_iff` which cell is reported where one cannot be read:
the first one in the order of the rows. Columns are aligned by their position alone, so rows may be
longer or shorter than the lists of names and types.

* `Reads` — what becomes of a single cell.
* `ResultSet.Offends` — a cell that cannot be read as its column declares it.
* `coerces` — success, the cell that is reported otherwise, the result, and that reading it again
  changes nothing.
-/

namespace RelationalQuery

namespace Execute

open Calendar (lenient?)

variable {column s : String} {type : Option ColumnType} {cell value : Value}

/-! ## Cells -/

/-- Whether a declared type is one of moments. -/
def HoldsMoments (type : Option ColumnType) : Prop := type = some .date ∨ type = some .dateTime

/-- What becomes of a cell under the declared type of its column, if it has one: text in a column of
moments is read as one, integers in a column of truth values are true unless they are zero, and
everything else stays as it is. -/
inductive Reads (type : Option ColumnType) : Value → Value → Prop
  | moment {s : String} {m : Calendar.Moment} (declared : HoldsMoments type)
    (reads : lenient? s = some m) : Reads type (.text s) (.moment m)
  | truth {n : Int64} (declared : type = some .boolean) : Reads type (.int n) (.bool (n != 0))
  | same {value : Value} (text : ∀ s, value = .text s → ¬ HoldsMoments type)
    (int : ∀ n, value = .int n → type ≠ some .boolean) : Reads type value value

/-- Whether a cell cannot be read as its column declares it: text that names no moment. -/
def Unreadable (type : Option ColumnType) (cell : Value) (s : String) : Prop :=
  cell = .text s ∧ HoldsMoments type ∧ lenient? s = none

/-- The error that reports such a cell. -/
def unreadable (column s : String) : ExecutionError :=
  .conversion column s!"`{s}` is not an ISO 8601 date"

theorem holdsMoments_some_iff {declared : ColumnType} :
    HoldsMoments (some declared) ↔ isMomentType declared := by
  cases declared <;> simp [HoldsMoments, isMomentType]

/-- Text in a column of moments is read as one. -/
theorem coerceCell_text (h : HoldsMoments type) :
    coerceCell column type (.text s) =
      (lenient? s).elim (.error (unreadable column s)) (fun m => .ok (.moment m)) := by
  cases type with
  | none => rcases h with h | h <;> cases h
  | some declared =>
    rw [coerceCell, if_pos (holdsMoments_some_iff.mp h)]
    cases lenient? s <;> rfl

/-- A cell that its column does not read otherwise stays as it is. -/
theorem coerceCell_same (text : ∀ s, value = .text s → ¬ HoldsMoments type)
    (int : ∀ n, value = .int n → type ≠ some .boolean) : coerceCell column type value = .ok value := by
  unfold coerceCell
  split
  · next declared s =>
    rw [if_neg fun h => text s rfl (holdsMoments_some_iff.mpr h)]
  · next n => exact absurd rfl (int n rfl)
  · rfl

/-- A cell is read as its column declares it, or cannot be read. -/
theorem coerceCell_cases (column : String) (type : Option ColumnType) (cell : Value) :
    (∃ value, coerceCell column type cell = .ok value ∧ Reads type cell value) ∨
      ∃ s, coerceCell column type cell = .error (unreadable column s) ∧ Unreadable type cell s := by
  by_cases htext : ∃ s, cell = .text s ∧ HoldsMoments type
  · obtain ⟨s, rfl, hmoments⟩ := htext
    rw [coerceCell_text hmoments]
    cases hs : lenient? s with
    | none => exact Or.inr ⟨s, rfl, rfl, hmoments, hs⟩
    | some m => exact Or.inl ⟨.moment m, rfl, .moment hmoments hs⟩
  · by_cases hint : ∃ n, cell = .int n ∧ type = some .boolean
    · obtain ⟨n, rfl, rfl⟩ := hint
      exact Or.inl ⟨.bool (n != 0), rfl, .truth rfl⟩
    · have hsame := Reads.same (fun s hs hmoments => htext ⟨s, hs, hmoments⟩)
        (fun n hn htype => hint ⟨n, hn, htype⟩)
      exact Or.inl ⟨cell, coerceCell_same (fun s hs hmoments => htext ⟨s, hs, hmoments⟩)
        (fun n hn htype => hint ⟨n, hn, htype⟩), hsame⟩

theorem coerceCell_eq_ok_iff : coerceCell column type cell = .ok value ↔ Reads type cell value := by
  constructor
  · intro h
    rcases coerceCell_cases column type cell with ⟨read, hread, hreads⟩ | ⟨s, hfails, -⟩
    · rwa [← Except.ok.inj (hread.symm.trans h)]
    · cases hfails.symm.trans h
  · intro h
    cases h with
    | moment declared reads => rw [coerceCell_text declared, reads, Option.elim_some]
    | truth declared =>
      subst declared
      rfl
    | same text int => exact coerceCell_same text int

theorem coerceCell_eq_error_iff {error : ExecutionError} :
    coerceCell column type cell = .error error ↔
      ∃ s, Unreadable type cell s ∧ error = unreadable column s := by
  constructor
  · intro h
    rcases coerceCell_cases column type cell with ⟨read, hread, -⟩ | ⟨s, hfails, hunreadable⟩
    · cases hread.symm.trans h
    · exact ⟨s, hunreadable, Except.error.inj (h.symm.trans hfails)⟩
  · rintro ⟨s, ⟨rfl, hmoments, hs⟩, rfl⟩
    rw [coerceCell_text hmoments, hs, Option.elim_none]

/-- A cell can be read if it is not unreadable. -/
theorem exists_coerceCell_iff :
    (∃ value, coerceCell column type cell = .ok value) ↔ ∀ s, ¬ Unreadable type cell s := by
  constructor
  · rintro ⟨value, hvalue⟩ s hs
    rw [coerceCell_eq_error_iff.mpr ⟨s, hs, rfl⟩] at hvalue
    cases hvalue
  · intro hnone
    rcases coerceCell_cases column type cell with ⟨value, hvalue, -⟩ | ⟨s, -, hs⟩
    · exact ⟨value, hvalue⟩
    · exact absurd hs (hnone s)

/-- What was read stays as it is when it is read again. -/
theorem Reads.again (h : Reads type cell value) : Reads type value value := by
  cases h with
  | moment declared reads => exact .same (fun s hs => by cases hs) (fun n hn => by cases hn)
  | truth declared => exact .same (fun s hs => by cases hs) (fun n hn => by cases hn)
  | same text int => exact .same text int

/-! ## Rows -/

/-- A row is read cell by cell, with the name and the type at the position of the cell. -/
theorem coerceRow_drop (names : List String) (types : List ColumnType) (row : Row) (k : Nat) :
    coerceRow (names.drop k) (types.drop k) row =
      (row.zipIdx k).mapM fun cell => coerceCell (names.getD cell.2 "") types[cell.2]? cell.1 := by
  induction row generalizing k with
  | nil => rfl
  | cons cell rest ih =>
    rw [coerceRow, List.zipIdx_cons, List.mapM_cons, List.tail_drop, List.tail_drop, ih (k + 1),
      List.head?_drop, List.headD_eq_head?_getD, List.head?_drop, List.getD_eq_getElem?_getD]

theorem coerceRow_eq (names : List String) (types : List ColumnType) (row : Row) :
    coerceRow names types row =
      row.zipIdx.mapM fun cell => coerceCell (names.getD cell.2 "") types[cell.2]? cell.1 :=
  coerceRow_drop names types row 0

/-- A row can be read into another one, cell by cell. -/
theorem coerceRow_eq_ok_iff {names : List String} {types : List ColumnType} {row read : Row} :
    coerceRow names types row = .ok read ↔
      read.length = row.length ∧ ∀ (j : Nat) (cell : Value), row[j]? = some cell →
        ∃ value, read[j]? = some value ∧ Reads types[j]? cell value := by
  rw [coerceRow_eq, mapM_eq_ok_iff_getElem?, List.length_zipIdx]
  refine and_congr_right fun _ => ?_
  simp only [List.getElem?_zipIdx, Option.map_eq_some_iff, Nat.zero_add, coerceCell_eq_ok_iff]
  constructor
  · intro h j cell hcell
    exact h j (cell, j) ⟨cell, hcell, rfl⟩
  · rintro h j _ ⟨cell, hcell, rfl⟩
    exact h j cell hcell

/-- A row is reported by its first cell that cannot be read. -/
theorem coerceRow_eq_error_iff {names : List String} {types : List ColumnType} {row : Row}
    {error : ExecutionError} :
    coerceRow names types row = .error error ↔
      ∃ (j : Nat) (cell : Value) (s : String), row[j]? = some cell ∧ Unreadable types[j]? cell s ∧
        error = unreadable (names.getD j "") s ∧
        ∀ (k : Nat) (other : Value) (t : String), k < j → row[k]? = some other →
          ¬ Unreadable types[k]? other t := by
  rw [coerceRow_eq, mapM_eq_error_iff]
  simp only [List.getElem?_zipIdx, Option.map_eq_some_iff, Nat.zero_add, coerceCell_eq_error_iff,
    exists_coerceCell_iff]
  constructor
  · rintro ⟨j, _, ⟨cell, hcell, rfl⟩, ⟨s, hs, rfl⟩, hbefore⟩
    exact ⟨j, cell, s, hcell, hs, rfl, fun k other t hk hother =>
      hbefore k (other, k) hk ⟨other, hother, rfl⟩ t⟩
  · rintro ⟨j, cell, s, hcell, hs, rfl, hbefore⟩
    refine ⟨j, (cell, j), ⟨cell, hcell, rfl⟩, ⟨s, hs, rfl⟩, ?_⟩
    rintro k _ hk ⟨other, hother, rfl⟩ t
    exact hbefore k other t hk hother

end Execute

/-! ## Result sets -/

namespace ResultSet

open Execute (HoldsMoments Reads Unreadable unreadable)

/-- The cell in a row and a column. -/
def cell? (r : ResultSet) (i j : Nat) : Option Value := r.rows[i]? >>= fun row => row[j]?

/-- Whether a cell is text that cannot be read, although its column is one of moments. -/
def Offends (r : ResultSet) (i j : Nat) (s : String) : Prop :=
  r.cell? i j = some (.text s) ∧ HoldsMoments r.types[j]? ∧ Calendar.lenient? s = none

/-- Whether a cell is the first one that cannot be read: no row before its own has one, nor has its
own row before it. -/
def OffendsFirst (r : ResultSet) (i j : Nat) (s : String) : Prop :=
  r.Offends i j s ∧ ∀ i' j' s', r.Offends i' j' s' → i < i' ∨ i = i' ∧ j ≤ j'

/-- Whether a result set is another one as its columns declare it: of the same shape, with each cell
read. -/
structure IsRead (r read : ResultSet) : Prop where
  names : read.names = r.names
  types : read.types = r.types
  lastInsertId : read.lastInsertId = r.lastInsertId
  rows : read.rows.length = r.rows.length
  cells : ∀ (i : Nat) (row : Row), r.rows[i]? = some row →
    ∃ readRow, read.rows[i]? = some readRow ∧ readRow.length = row.length ∧
      ∀ (j : Nat) (cell : Value), row[j]? = some cell →
        ∃ value, readRow[j]? = some value ∧ Reads r.types[j]? cell value

theorem cell?_eq_some_iff {r : ResultSet} {i j : Nat} {cell : Value} :
    r.cell? i j = some cell ↔ ∃ row, r.rows[i]? = some row ∧ row[j]? = some cell :=
  Option.bind_eq_some_iff

theorem offends_iff {r : ResultSet} {i j : Nat} {s : String} :
    r.Offends i j s ↔
      ∃ row cell, r.rows[i]? = some row ∧ row[j]? = some cell ∧ Unreadable r.types[j]? cell s := by
  simp only [Offends, cell?_eq_some_iff, Unreadable]
  constructor
  · rintro ⟨⟨row, hrow, hcell⟩, hmoments, hs⟩
    exact ⟨row, .text s, hrow, hcell, rfl, hmoments, hs⟩
  · rintro ⟨row, _, hrow, hcell, rfl, hmoments, hs⟩
    exact ⟨⟨row, hrow, hcell⟩, hmoments, hs⟩

/-- Null stays null. -/
theorem IsRead.null {r read : ResultSet} (h : r.IsRead read) {i j : Nat}
    (hnull : r.cell? i j = some .null) : read.cell? i j = some .null := by
  obtain ⟨row, hrow, hcell⟩ := cell?_eq_some_iff.mp hnull
  obtain ⟨readRow, hreadRow, -, hcells⟩ := h.cells i row hrow
  obtain ⟨value, hvalue, hreads⟩ := hcells j .null hcell
  cases hreads
  exact cell?_eq_some_iff.mpr ⟨readRow, hreadRow, hvalue⟩

/-- What was read is read into itself. -/
theorem IsRead.again {r read : ResultSet} (h : r.IsRead read) : read.IsRead read where
  names := rfl
  types := rfl
  lastInsertId := rfl
  rows := rfl
  cells i readRow hread := by
    refine ⟨readRow, hread, rfl, fun j value hvalue => ⟨value, hvalue, ?_⟩⟩
    have hi : i < r.rows.length := h.rows ▸ (List.getElem?_eq_some_iff.mp hread).1
    obtain ⟨_, hsame, hlength, hcells⟩ := h.cells i r.rows[i] (List.getElem?_eq_getElem hi)
    obtain rfl := Option.some.inj (hread.symm.trans hsame)
    have hj : j < r.rows[i].length := hlength ▸ (List.getElem?_eq_some_iff.mp hvalue).1
    obtain ⟨_, hsame, hreads⟩ := hcells j r.rows[i][j] (List.getElem?_eq_getElem hj)
    obtain rfl := Option.some.inj (hvalue.symm.trans hsame)
    rw [h.types]
    exact hreads.again

end ResultSet

namespace Execute

variable {r read : ResultSet}

/-- What comes of a result set that can be read. -/
theorem coerce_eq_ok_iff : coerce r = .ok read ↔ r.IsRead read := by
  rw [coerce, bind_eq_ok_iff]
  constructor
  · rintro ⟨rows, hrows, h⟩
    obtain rfl := Except.ok.inj h
    obtain ⟨hlength, hentries⟩ := mapM_eq_ok_iff_getElem?.mp hrows
    refine ⟨rfl, rfl, rfl, hlength, fun i row hrow => ?_⟩
    obtain ⟨readRow, hreadRow, hcoerced⟩ := hentries i row hrow
    exact ⟨readRow, hreadRow, coerceRow_eq_ok_iff.mp hcoerced⟩
  · intro h
    refine ⟨read.rows, mapM_eq_ok_iff_getElem?.mpr ⟨h.rows, fun i row hrow => ?_⟩, ?_⟩
    · obtain ⟨readRow, hreadRow, hcells⟩ := h.cells i row hrow
      exact ⟨readRow, hreadRow, coerceRow_eq_ok_iff.mpr hcells⟩
    · rw [← h.names, ← h.types, ← h.lastInsertId]
      rfl

/-- The rows before a row can be read if none of their cells offends. -/
theorem exists_coerceRow_iff {row : Row} :
    (∃ readRow, coerceRow r.names r.types row = .ok readRow) ↔
      ∀ (j : Nat) (cell : Value) (s : String), row[j]? = some cell →
        ¬ Unreadable r.types[j]? cell s := by
  constructor
  · rintro ⟨readRow, hread⟩ j cell s hcell hs
    obtain ⟨value, -, hreads⟩ := (coerceRow_eq_ok_iff.mp hread).2 j cell hcell
    have hcoerced : coerceCell "" r.types[j]? cell = .ok value := coerceCell_eq_ok_iff.mpr hreads
    exact exists_coerceCell_iff.mp ⟨value, hcoerced⟩ s hs
  · intro hnone
    rw [coerceRow_eq]
    refine exists_mapM_eq_ok fun cell hmem => exists_coerceCell_iff.mpr fun s => ?_
    obtain ⟨j, hj⟩ := List.mem_iff_getElem?.mp hmem
    rw [List.getElem?_zipIdx, Option.map_eq_some_iff] at hj
    obtain ⟨value, hvalue, rfl⟩ := hj
    rw [Nat.zero_add]
    exact hnone j value s hvalue

/-- Which error a result set comes to that cannot be read. -/
theorem coerce_eq_error_iff {error : ExecutionError} :
    coerce r = .error error ↔
      ∃ i j s, r.OffendsFirst i j s ∧ error = unreadable (r.names.getD j "") s := by
  have hrows : coerce r = .error error ↔ r.rows.mapM (coerceRow r.names r.types) = .error error := by
    rw [coerce, bind_eq_error_iff]
    refine ⟨fun h => h.resolve_right ?_, Or.inl⟩
    rintro ⟨rows, -, hok⟩
    cases hok
  rw [hrows, mapM_eq_error_iff]
  simp only [coerceRow_eq_error_iff, exists_coerceRow_iff]
  constructor
  · rintro ⟨i, row, hrow, ⟨j, cell, s, hcell, hs, rfl, hleft⟩, habove⟩
    refine ⟨i, j, s, ⟨ResultSet.offends_iff.mpr ⟨row, cell, hrow, hcell, hs⟩, ?_⟩, rfl⟩
    intro i' j' s' hoffends
    obtain ⟨row', cell', hrow', hcell', hs'⟩ := ResultSet.offends_iff.mp hoffends
    rcases Nat.lt_trichotomy i i' with hlt | rfl | hgt
    · exact Or.inl hlt
    · refine Or.inr ⟨rfl, Nat.le_of_not_lt fun hlt => ?_⟩
      obtain rfl := Option.some.inj (hrow.symm.trans hrow')
      exact hleft j' cell' s' hlt hcell' hs'
    · exact absurd hs' (habove i' row' hgt hrow' j' cell' s' hcell')
  · rintro ⟨i, j, s, ⟨hoffends, hfirst⟩, rfl⟩
    obtain ⟨row, cell, hrow, hcell, hs⟩ := ResultSet.offends_iff.mp hoffends
    refine ⟨i, row, hrow, ⟨j, cell, s, hcell, hs, rfl, fun k other t hk hother ht => ?_⟩,
      fun k row' hk hrow' j' cell' t hcell' ht => ?_⟩
    · have hafter := hfirst i k t (ResultSet.offends_iff.mpr ⟨row, other, hrow, hother, ht⟩)
      omega
    · have hafter := hfirst k j' t (ResultSet.offends_iff.mpr ⟨row', cell', hrow', hcell', ht⟩)
      omega

/-- A result set can be read if none of its cells offends. -/
theorem exists_coerce_iff : (∃ read, coerce r = .ok read) ↔ ∀ i j s, ¬ r.Offends i j s := by
  constructor
  · rintro ⟨read, hread⟩ i j s hoffends
    obtain ⟨row, cell, hrow, hcell, hs⟩ := ResultSet.offends_iff.mp hoffends
    obtain ⟨readRow, -, hlength, hcells⟩ := (coerce_eq_ok_iff.mp hread).cells i row hrow
    have hreadable := exists_coerceRow_iff.mp ⟨readRow, coerceRow_eq_ok_iff.mpr ⟨hlength, hcells⟩⟩
    exact hreadable j cell s hcell hs
  · intro hnone
    cases h : coerce r with
    | ok read => exact ⟨read, rfl⟩
    | error error =>
      obtain ⟨i, j, s, hfirst, -⟩ := coerce_eq_error_iff.mp h
      exact absurd hfirst.1 (hnone i j s)

/-- **Coercion of a result set.** It succeeds if every text in a column of moments names one, and
else reports the first cell in the order of the rows that does not, under the name of its column. On
success the result has the same shape, each cell is read as its column declares it, null stays null,
and to coerce the result again changes nothing. -/
theorem coerces (r : ResultSet) :
    ((∃ read, coerce r = .ok read) ↔
      ∀ i j s, r.cell? i j = some (.text s) → HoldsMoments r.types[j]? →
        ∃ m, Calendar.lenient? s = some m) ∧
    (∀ error, coerce r = .error error ↔
      ∃ i j s, r.OffendsFirst i j s ∧
        error = .conversion (r.names.getD j "") s!"`{s}` is not an ISO 8601 date") ∧
    ∀ read, coerce r = .ok read → r.IsRead read ∧
      (∀ i j, r.cell? i j = some .null → read.cell? i j = some .null) ∧ coerce read = .ok read := by
  refine ⟨?_, fun error => coerce_eq_error_iff, fun read hread => ?_⟩
  · rw [exists_coerce_iff]
    refine forall_congr' fun i => forall_congr' fun j => forall_congr' fun s => ?_
    rw [ResultSet.Offends, ← Option.ne_none_iff_exists', ne_eq]
    tauto
  · have hshape := coerce_eq_ok_iff.mp hread
    exact ⟨hshape, fun i j => hshape.null, coerce_eq_ok_iff.mpr hshape.again⟩

/-- Rows of unequal lengths, under more types than names. -/
def visits : ResultSet where
  names := ["id", "day"]
  types := [.int64, .date, .boolean]
  rows := [[.int 1, .text "2024-03-01", .int 2], [.null], [.int 3, .null, .int 0, .text "soon"]]

/-- These rows can be read, and stay as they are when they are read again. -/
theorem coerces_visits :
    ∃ read, coerce visits = .ok read ∧ read.cell? 0 1 = some (.moment ⟨2024, 3, 1, 0, 0, 0, 0, 0⟩) ∧
      visits.IsRead read ∧ read.cell? 1 0 = some .null ∧ coerce read = .ok read := by
  have hday : Calendar.lenient? "2024-03-01" = some ⟨2024, 3, 1, 0, 0, 0, 0, 0⟩ := by
    decide +kernel
  have hcell : coerceCell "day" (some .date) (.text "2024-03-01") =
      .ok (.moment ⟨2024, 3, 1, 0, 0, 0, 0, 0⟩) := by
    rw [coerceCell_text (Or.inl rfl), hday]
    rfl
  have hread : coerce visits = .ok { visits with
      rows := [[.int 1, .moment ⟨2024, 3, 1, 0, 0, 0, 0, 0⟩, .bool true], [.null],
        [.int 3, .null, .bool false, .text "soon"]] } := by
    simp only [coerce, visits, List.mapM_cons, coerceRow, List.headD_cons, List.tail_cons,
      List.head?_cons, hcell]
    rfl
  obtain ⟨hshape, hnull, hagain⟩ := (coerces visits).2.2 _ hread
  exact ⟨_, hread, rfl, hshape, hnull 1 0 rfl, hagain⟩

end Execute

end RelationalQuery
