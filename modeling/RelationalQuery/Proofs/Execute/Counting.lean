import RelationalQuery.Proofs.Execute.Coerced
import RelationalQuery.Proofs.Execute.Effects
import RelationalQuery.Proofs.Execute.Runs
import RelationalQuery.Proofs.Value.Decimal

/-!
# Counts

A count is the first cell of an answer. Databases send it as an integer or as text, and either is
read exactly: a text that spells no integer of 64 bits is refused under the name of the first column,
so no count wraps around or loses digits. An answer is read as a whole before, so a cell beside the
count that its column cannot read is reported in its place.

* `runFrom_queryCount` — a count is read off the answer, after all of its cells have been.
* `counted_queryCount` — what a count comes to, by the first cell of the answer.
-/

namespace RelationalQuery

namespace ResultSet

/-- Whether all cells can be read as their columns declare them. -/
def IsReadable (r : ResultSet) : Prop := ∀ i j s, ¬ r.Offends i j s

/-- Whether the first column leaves integers and texts as they arrive: it is neither one of moments
nor one of truth values. -/
def HasPlainColumn (r : ResultSet) : Prop :=
  ¬ Execute.HoldsMoments r.types[0]? ∧ r.types[0]? ≠ some .boolean

end ResultSet

namespace Execute

open Value (SpellsWithin IsInt64)

variable {x : Executor} {channel : Channel} {q : Query} {start : History} {s : Statement}
  {answer read : ResultSet}

/-- What a count comes to, by the answer to its statement. -/
structure Counted (answer : ResultSet) (result : Except ExecutionError Int64) : Prop where
  /-- The first cell that cannot be read is reported. -/
  unreadable : ∀ i j s, answer.OffendsFirst i j s →
    result = .error (.conversion (answer.names.getD j "") s!"`{s}` is not an ISO 8601 date")
  /-- No rows count as zero. -/
  empty : answer.rows = [] → result = .ok 0
  /-- An integer is the count. -/
  int : answer.IsReadable → answer.HasPlainColumn → ∀ n, answer.cell? 0 0 = some (.int n) →
    result = .ok n
  /-- A text that spells an integer is the count. -/
  text : answer.IsReadable → answer.HasPlainColumn → ∀ s n, answer.cell? 0 0 = some (.text s) →
    SpellsWithin s.toList n.toInt → result = .ok n
  /-- Every other text is refused. -/
  refused : answer.IsReadable → answer.HasPlainColumn → ∀ s, answer.cell? 0 0 = some (.text s) →
    (∀ n, SpellsWithin s.toList n → ¬ IsInt64 n) →
    result = .error (.conversion (answer.names.headD "") "Unable to convert value from string to i64")

/-- A count is read off the answer, after all of its cells have been read. -/
theorem runFrom_queryCount (hs : x.compiler.statement q = .ok s)
    (hanswer : x.adapter.query start channel s = .ok answer) :
    (runFrom start (queryCount x channel q)).1 = coerce answer >>= countOf := by
  have hrows : runFrom start (queryRows x channel q) =
      (coerce answer, start ++ [.query channel s]) := by
    rw [queryRows, hs, ofCompiled, runFrom_bind, runFrom_pure]
    dsimp only
    rw [runFrom_fetch, hanswer]
  rw [queryCount, runFrom_bind, hrows]
  cases coerce answer with
  | error error => rfl
  | ok read =>
    rw [ok_bind]
    dsimp only
    cases countOf read <;> rfl

/-- The cell that holds a count is the first one of the first row. -/
theorem firstCell_eq (r : ResultSet) : (r.rows.head? >>= List.head?) = r.cell? 0 0 := by
  have hfirst : (List.head? : Row → Option Value) = fun row => row[0]? :=
    funext fun row => List.head?_eq_getElem?
  rw [ResultSet.cell?, List.head?_eq_getElem?, hfirst]

theorem countOf_eq_ok {r : ResultSet} {n : Int64} {cell : Value} (hcell : r.cell? 0 0 = some cell)
    (h : cell.toInt = .ok n) : countOf r = .ok n := by
  rw [countOf, firstCell_eq, hcell, Option.getD_some, h]

theorem countOf_eq_error {r : ResultSet} {cell : Value} {failure : ConversionFailure}
    (hcell : r.cell? 0 0 = some cell) (h : cell.toInt = .error failure) :
    countOf r = .error (.conversion (r.names.headD "") failure.message) := by
  rw [countOf, firstCell_eq, hcell, Option.getD_some, h]

/-- Integers and texts in the first column arrive as they were sent, if that column is plain. -/
theorem cell?_of_plain (h : answer.IsRead read) (hplain : answer.HasPlainColumn) {cell : Value}
    (hcell : answer.cell? 0 0 = some cell) : read.cell? 0 0 = some cell := by
  obtain ⟨row, hrow, hfirst⟩ := ResultSet.cell?_eq_some_iff.mp hcell
  obtain ⟨readRow, hreadRow, -, hcells⟩ := h.cells 0 row hrow
  obtain ⟨value, hvalue, hreads⟩ := hcells 0 cell hfirst
  cases hreads with
  | moment declared reads => exact absurd declared hplain.1
  | truth declared => exact absurd declared hplain.2
  | same text int => exact ResultSet.cell?_eq_some_iff.mpr ⟨readRow, hreadRow, hvalue⟩

/-- What a count comes to is told by the answer to its statement. -/
theorem counted_queryCount (hs : x.compiler.statement q = .ok s)
    (hanswer : x.adapter.query start channel s = .ok answer) :
    Counted answer (runFrom start (queryCount x channel q)).1 := by
  rw [runFrom_queryCount hs hanswer]
  -- an answer that can be read is read into one with the same first cell
  have hread (hreadable : answer.IsReadable) : ∃ read, coerce answer = .ok read ∧
      answer.IsRead read := by
    obtain ⟨read, hread⟩ := exists_coerce_iff.mpr hreadable
    exact ⟨read, hread, coerce_eq_ok_iff.mp hread⟩
  refine ⟨fun i j s hfirst => ?_, fun hempty => ?_, fun hreadable hplain n hcell => ?_,
    fun hreadable hplain s n hcell hspells => ?_, fun hreadable hplain s hcell hnone => ?_⟩
  · rw [coerce_eq_error_iff.mpr ⟨i, j, s, hfirst, rfl⟩]
    rfl
  · have hcoerce : coerce answer = .ok answer := by
      rw [coerce, hempty]
      show Except.ok { answer with rows := [] } = _
      rw [← hempty]
    rw [hcoerce, ok_bind, countOf, hempty]
    rfl
  · obtain ⟨read, hcoerce, hshape⟩ := hread hreadable
    rw [hcoerce, ok_bind]
    exact countOf_eq_ok (cell?_of_plain hshape hplain hcell) rfl
  · obtain ⟨read, hcoerce, hshape⟩ := hread hreadable
    rw [hcoerce, ok_bind]
    exact countOf_eq_ok (cell?_of_plain hshape hplain hcell) (Value.toInt_text_eq_ok_iff.mpr hspells)
  · obtain ⟨read, hcoerce, hshape⟩ := hread hreadable
    rw [hcoerce, ok_bind, ← hshape.names]
    exact countOf_eq_error (cell?_of_plain hshape hplain hcell) (Value.toInt_text_eq_error hnone)

/-- **Counts are read exactly.** A text is read as an integer if, without the white space around it,
it is a numeral of a number of 64 bits, and is refused otherwise. So a count comes to the integer in
the first cell of an answer, or to the one that the text there spells; any other text is refused
under the name of the first column, and no rows count as zero. All of this holds where every cell of
the answer can be read; else the first one that cannot is reported. -/
theorem counts_exactly :
    (∀ (s : String) (n : Int), (∃ k : Int64, (Value.text s).toInt = .ok k ∧ k.toInt = n) ↔
      SpellsWithin s.toList n ∧ IsInt64 n) ∧
    (∀ s : String, (∀ n, SpellsWithin s.toList n → ¬ IsInt64 n) →
      (Value.text s).toInt = .error ⟨"string", "i64"⟩) ∧
    ∀ (x : Executor) (channel : Channel) (q : Query) (s : Statement) (start : History)
      (answer : ResultSet), x.compiler.statement q = .ok s →
      x.adapter.query start channel s = .ok answer →
      Counted answer (runFrom start (queryCount x channel q)).1 := by
  refine ⟨fun s n => ?_, fun s => Value.toInt_text_eq_error,
    fun x channel q s start answer hs hanswer => counted_queryCount hs hanswer⟩
  constructor
  · rintro ⟨k, hk, rfl⟩
    exact ⟨Value.toInt_text_eq_ok_iff.mp hk, Value.isInt64_iff.mpr ⟨k, rfl⟩⟩
  · rintro ⟨hspells, hrange⟩
    obtain ⟨k, rfl⟩ := Value.isInt64_iff.mp hrange
    exact ⟨k, Value.toInt_text_eq_ok_iff.mpr hspells, rfl⟩

/-- An executor whose adapter gives one answer to every query. -/
def answering (answer : ResultSet) : Executor :=
  { adapter := { silentAdapter with query := fun _ _ _ => .ok answer }
    compiler := { dialect := .postgres } }

/-- Counts the visits. -/
def countVisits : Query := { model := "visits", action := .count }

/-- A count that is written with a sign, leading zeros and white space around it. -/
def writtenCount : ResultSet :=
  { names := ["count"], types := [.numeric], rows := [[.text " +007\u3000"]] }

/-- It is read as the number that it spells. -/
theorem counts_exactly_writtenCount :
    SpellsWithin " +007\u3000".toList 7 ∧
      (runFrom [] (queryCount (answering writtenCount) .connection countVisits)).1 = .ok 7 := by
  have hnumeral : Value.Spells ['+', '0', '0', '7'] (Nat.ofDigitChars 10 ['0', '0', '7'] 0) :=
    .plus (by decide) (by decide)
  have hspells : SpellsWithin " +007\u3000".toList 7 :=
    ⟨[' '], ['+', '0', '0', '7'], ['\u3000'], rfl, by decide, by decide, hnumeral⟩
  have hcounted := counts_exactly.2.2 (answering writtenCount) .connection countVisits
    { sql := "SELECT COUNT(*) FROM \"visits\"", args := [], returnsRows := true } [] writtenCount
    rfl rfl
  have hreadable : writtenCount.IsReadable := exists_coerce_iff.mp ⟨writtenCount, rfl⟩
  have hplain : writtenCount.HasPlainColumn := ⟨by simp [HoldsMoments, writtenCount], by decide⟩
  exact ⟨hspells, hcounted.text hreadable hplain _ 7 rfl hspells⟩

/-- An answer with a cell beside the count that its column cannot read. -/
def datedCount : ResultSet :=
  { names := ["count", "day"], types := [.int64, .date], rows := [[.int 5, .text "yesterday"]] }

/-- The cell beside the count is reported, although the count is there. -/
theorem queryCount_datedCount :
    (answering datedCount).compiler.statement countVisits =
        .ok { sql := "SELECT COUNT(*) FROM \"visits\"", args := [], returnsRows := true } ∧
      datedCount.cell? 0 0 = some (.int 5) ∧ datedCount.HasPlainColumn ∧
      (runFrom [] (queryCount (answering datedCount) .connection countVisits)).1 =
        .error (.conversion "day" "`yesterday` is not an ISO 8601 date") := by
  have hoffends : datedCount.Offends 0 1 "yesterday" :=
    ⟨rfl, Or.inl rfl, by decide +kernel⟩
  have hfirst : datedCount.OffendsFirst 0 1 "yesterday" := by
    refine ⟨hoffends, ?_⟩
    rintro i j s ⟨-, hmoments, -⟩
    -- the count itself stands in no column of moments
    have hj : j ≠ 0 := by
      rintro rfl
      simp [HoldsMoments, datedCount] at hmoments
    omega
  have hcounted : Counted datedCount
      (runFrom [] (queryCount (answering datedCount) .connection countVisits)).1 :=
    counted_queryCount
      (s := { sql := "SELECT COUNT(*) FROM \"visits\"", args := [], returnsRows := true }) rfl rfl
  exact ⟨rfl, rfl, ⟨by simp [HoldsMoments, datedCount], by decide⟩,
    hcounted.unreadable 0 1 "yesterday" hfirst⟩

end Execute

end RelationalQuery
