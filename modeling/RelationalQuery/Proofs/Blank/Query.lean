import RelationalQuery.Proofs.Blank.Value
import RelationalQuery.Query.Basic

/-!
# Blank queries

A query holds values in the filters on its own rows, on included rows and on counted rows, in the
records that it writes, in the targets that it connects and disconnects, and in the correlations of
its computed fields. `Query.blank` blanks them all and leaves everything else as it is, so that
queries are alike if they differ in such values only, and there by alike values.
-/

namespace RelationalQuery

/-! ## Filters -/

mutual

/-- The criterion with blank values. -/
def Criterion.blank : Criterion → Criterion
  | .literal value => .literal value.blank
  | .comparison operators => .comparison (Value.blankMembers operators)
  | .logical connective operands => .logical connective (Filter.blankAll operands)
  | .related quantifier nested => .related quantifier (Filter.blank nested)

/-- The filter with blank values. -/
def Filter.blank : List (String × Criterion) → List (String × Criterion)
  | [] => []
  | (key, criterion) :: rest => (key, criterion.blank) :: Filter.blank rest

/-- The filters with blank values. -/
def Filter.blankAll : List (List (String × Criterion)) → List (List (String × Criterion))
  | [] => []
  | filter :: rest => Filter.blank filter :: Filter.blankAll rest

end

theorem Filter.blank_eq_mapValues (filter : Filter) :
    Filter.blank filter = Dict.mapValues Criterion.blank filter := by
  induction filter with
  | nil => rfl
  | cons entry rest ih => rw [Filter.blank, Dict.mapValues_cons, ih]

/-! ## Data -/

/-- The target with a blank value. -/
def Target.blank (t : Target) : Target := { t with value := t.value.blank }

/-- The targets with blank values. -/
def RelationWrite.blank (w : RelationWrite) : RelationWrite :=
  { connect := w.connect.map Target.blank, disconnect := w.disconnect.map Target.blank }

/-- The datum with blank values. -/
def Datum.blank : Datum → Datum
  | value v => value v.blank
  | relation write => relation write.blank

/-- The record with blank values. -/
def DataRecord.blank (record : DataRecord) : DataRecord := Dict.mapValues Datum.blank record

/-- The records with blank values. -/
def WriteData.blank : WriteData → WriteData
  | one record => one record.blank
  | many records => many (records.map DataRecord.blank)

/-! ## Aggregates and computed fields -/

/-- The aggregates with blank values in the filters of counts. -/
def Aggregates.blank (a : Aggregates) : Aggregates :=
  { a with filtered := Dict.mapValues Filter.blank a.filtered }

/-- The correlation with a blank value, if it is one with a value. -/
def Correlation.blank : Correlation → Correlation
  | field name => field name
  | value v => value v.blank

/-- The computed field with blank values in its correlations. -/
def ComputedField.blank (f : ComputedField) : ComputedField :=
  { f with correlations := Dict.mapValues Correlation.blank f.correlations }

/-! ## Queries -/

/-- The arguments with blank values. -/
def Arguments.blank (a : Arguments) : Arguments :=
  { a with
    filter := a.filter.map Filter.blank
    data := a.data.map WriteData.blank
    aggregates := a.aggregates.map Aggregates.blank
    computed := Dict.mapValues ComputedField.blank a.computed
    create := a.create.map DataRecord.blank
    update := a.update.map DataRecord.blank }

mutual

/-- The selection with blank values in the arguments of included rows. -/
def Selection.blank : Selection → Selection
  | ⟨scalars, composites, fields⟩ => ⟨scalars, composites, Selection.blankFields fields⟩

/-- The selected fields with blank values in their arguments. -/
def Selection.blankFields : List (String × SelectedField) → List (String × SelectedField)
  | [] => []
  | (name, field) :: rest => (name, field.blank) :: Selection.blankFields rest

/-- The selected field with blank values in its arguments. -/
def SelectedField.blank : SelectedField → SelectedField
  | .flag on => .flag on
  | .nested arguments selection => .nested arguments.blank selection.blank

end

/-- The query with blank values. -/
def Query.blank (q : Query) : Query :=
  { q with arguments := q.arguments.blank, selection := q.selection.map Selection.blank }

/-- Queries are alike if they are the same but for values that are alike. -/
def Query.Alike (q q' : Query) : Prop := q.blank = q'.blank

end RelationalQuery
