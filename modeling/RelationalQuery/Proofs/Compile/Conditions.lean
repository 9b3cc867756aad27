import RelationalQuery.Compile.Filter
import RelationalQuery.Proofs.Result

/-!
# What filters are compiled to

The conditions of a filter, taken apart along its entries: one lemma for each kind of entry says
which checks have passed, which names were drawn on the way, and what the conditions are. What is
proved of conditions by induction on the filter has one case for each of them.
-/

namespace RelationalQuery.Compile

open Sql

variable {c : Context} {scope : Scope} {key : String} {clause : Clause} {used after : List String}

/-- What a column can be compared with: with nothing but null, with a value, or with several. -/
inductive Compared (column : Column) : Condition → Prop
  | isNull (negated : Bool) : Compared column (.isNull column negated)
  | value (op : Comparator) (value : Value) : Compared column (.compare column op value)
  | member (negated : Bool) (values : List Value) : Compared column (.member column negated values)

/-- A single comparison is one of these. -/
theorem compared_of_compareWith {column : Column} {field : String} {op : Comparison}
    {operand : Value} {condition : Condition}
    (h : compareWith column field op operand = .ok condition) : Compared column condition := by
  cases op with
  | equals =>
    obtain rfl := Except.ok.inj h
    cases operand with
    | null => exact .isNull false
    | _ => exact .value _ _
  | not =>
    obtain rfl := Except.ok.inj h
    cases operand with
    | null => exact .isNull true
    | _ => exact .value _ _
  | isIn | notIn =>
    obtain rfl := Except.ok.inj h
    exact .member _ _
  | lt | lte | gt | gte =>
    obtain rfl := Except.ok.inj h
    exact .value _ _
  | search place insensitive =>
    rw [compareWith, bind_eq_ok_iff] at h
    obtain ⟨text, -, h⟩ := h
    obtain rfl := Except.ok.inj h
    exact .value _ _

/-- What the conditions of comparisons can be: single ones, or several that are negated together. -/
inductive Comparative (column : Column) : Condition → Prop
  | single {condition : Condition} (compared : Compared column condition) :
    Comparative column condition
  | negation {clause : Clause} (parts : ∀ condition ∈ clause, Comparative column condition) :
    Comparative column (.negation clause)

/-- An empty filter has no conditions. -/
theorem conditions_nil_eq_ok (h : conditions c scope [] used = .ok (clause, after)) :
    clause = [] ∧ after = used := by
  obtain ⟨hclause, hafter⟩ := pure_run_eq_ok_iff.mp h
  exact ⟨hclause.symm, hafter⟩

/-- The conditions of the first entry stand before those of the others. -/
theorem conditions_cons_eq_ok {criterion : Criterion} {rest : List (String × Criterion)}
    (h : conditions c scope ((key, criterion) :: rest) used = .ok (clause, after)) :
    ∃ here others between, criterionConditions c scope key criterion used = .ok (here, between) ∧
      conditions c scope rest between = .ok (others, after) ∧ clause = here ++ others := by
  rw [conditions, bind_run_eq_ok_iff] at h
  obtain ⟨here, between, hhere, h⟩ := h
  rw [bind_run_eq_ok_iff] at h
  obtain ⟨others, last, hothers, h⟩ := h
  obtain ⟨rfl, rfl⟩ := pure_run_eq_ok_iff.mp h
  exact ⟨here, others, between, hhere, hothers, rfl⟩

/-- A literal is compared for equality. -/
theorem literal_eq_ok {value : Value}
    (h : criterionConditions c scope key (.literal value) used = .ok (clause, after)) :
    comparable c scope key = .ok () ∧ clause = [equals (scope.row.field c key) value] ∧
      after = used := by
  rw [criterionConditions, bind_run_eq_ok_iff] at h
  obtain ⟨_, between, hcomparable, h⟩ := h
  obtain ⟨hchecked, rfl⟩ := lift_run_eq_ok_iff.mp hcomparable
  obtain ⟨rfl, rfl⟩ := pure_run_eq_ok_iff.mp h
  exact ⟨hchecked, rfl, rfl⟩

/-- Comparisons are those of the field's column. -/
theorem comparison_eq_ok {operators : Dict Value}
    (h : criterionConditions c scope key (.comparison operators) used = .ok (clause, after)) :
    comparable c scope key = .ok () ∧
      comparisons (scope.row.field c key) key operators = .ok clause ∧ after = used := by
  rw [criterionConditions, bind_run_eq_ok_iff] at h
  obtain ⟨_, between, hcomparable, h⟩ := h
  obtain ⟨hchecked, rfl⟩ := lift_run_eq_ok_iff.mp hcomparable
  obtain ⟨hcomparisons, rfl⟩ := lift_run_eq_ok_iff.mp h
  exact ⟨hchecked, hcomparisons, rfl⟩

/-- Filters under a connective are compiled one by one and combined. -/
theorem logical_eq_ok {connective : Connective} {operands : List (List (String × Criterion))}
    (h : criterionConditions c scope key (.logical connective operands) used = .ok (clause, after)) :
    Connective.ofKey? key ≠ none ∧ ∃ parts, clauses c scope operands used = .ok (parts, after) ∧
      clause = combined connective parts := by
  rw [criterionConditions] at h
  dsimp only at h
  by_cases hkey : (Connective.ofKey? key).isNone
  · rw [if_pos hkey, bind_run_eq_ok_iff] at h
    obtain ⟨_, _, hthrow, -⟩ := h
    cases hthrow
  · rw [if_neg hkey, bind_run_eq_ok_iff] at h
    obtain ⟨parts, between, hparts, h⟩ := h
    obtain ⟨rfl, rfl⟩ := pure_run_eq_ok_iff.mp h
    exact ⟨fun hnone => hkey (Option.isNone_iff_eq_none.mpr hnone), parts, hparts, rfl⟩

/-- A filter on related rows is compiled inside of a subquery, where the related row is in sight. -/
theorem related_eq_ok {quantifier : Quantifier} {nested : List (String × Criterion)}
    (h : criterionConditions c scope key (.related quantifier nested) used = .ok (clause, after)) :
    ∃ relation entry between inner, quantifiable c scope key = .ok relation ∧
      c.checkModel relation.target = .ok () ∧
      enter c scope key relation used = .ok (entry, between) ∧
      conditions c ⟨entry.row, entry.row.name :: scope.visible, true⟩ nested between =
        .ok (inner, after) ∧ clause = [quantified quantifier entry inner] := by
  rw [criterionConditions, bind_run_eq_ok_iff] at h
  obtain ⟨relation, between, hrelation, h⟩ := h
  obtain ⟨hquantifiable, rfl⟩ := lift_run_eq_ok_iff.mp hrelation
  rw [bind_run_eq_ok_iff] at h
  obtain ⟨_, between, hmodel, h⟩ := h
  obtain ⟨hchecked, rfl⟩ := lift_run_eq_ok_iff.mp hmodel
  rw [bind_run_eq_ok_iff] at h
  obtain ⟨entry, between, henter, h⟩ := h
  rw [bind_run_eq_ok_iff] at h
  obtain ⟨inner, last, hinner, h⟩ := h
  obtain ⟨rfl, rfl⟩ := pure_run_eq_ok_iff.mp h
  exact ⟨relation, entry, between, inner, hquantifiable, hchecked, henter, hinner, rfl⟩

/-- A quantifier only stands under a relation of the model. -/
theorem relation?_of_quantifiable {relation : Relation}
    (h : quantifiable c scope key = .ok relation) :
    c.schema.relation? scope.row.model key = some relation := by
  rw [quantifiable] at h
  split at h
  · cases h
  · split at h
    · next found hfound =>
      obtain rfl := Except.ok.inj h
      exact hfound
    · cases h

/-- Without filters there are no clauses. -/
theorem clauses_nil_eq_ok {parts : List Clause}
    (h : clauses c scope [] used = .ok (parts, after)) : parts = [] ∧ after = used := by
  obtain ⟨hparts, hafter⟩ := pure_run_eq_ok_iff.mp h
  exact ⟨hparts.symm, hafter⟩

/-- The clause of the first filter stands before those of the others. -/
theorem clauses_cons_eq_ok {filter : List (String × Criterion)}
    {rest : List (List (String × Criterion))} {parts : List Clause}
    (h : clauses c scope (filter :: rest) used = .ok (parts, after)) :
    ∃ clause others between, conditions c scope filter used = .ok (clause, between) ∧
      clauses c scope rest between = .ok (others, after) ∧ parts = clause :: others := by
  rw [clauses, bind_run_eq_ok_iff] at h
  obtain ⟨clause, between, hclause, h⟩ := h
  rw [bind_run_eq_ok_iff] at h
  obtain ⟨others, last, hothers, h⟩ := h
  obtain ⟨rfl, rfl⟩ := pure_run_eq_ok_iff.mp h
  exact ⟨clause, others, between, hclause, hothers, rfl⟩

end RelationalQuery.Compile
