import RelationalQuery.Compile.Filter
import RelationalQuery.Proofs.Blank.Query
import RelationalQuery.Proofs.Blank.Tree
import RelationalQuery.Proofs.Result

/-!
# Filters with blank values

The conditions of a filter look the same, once their values are blanked, whether the filter has its
own values or blank ones. What a comparison asks of its operand is whether it is null, a list or an
object, and these are the shapes that blanking keeps; a text search takes the text of any scalar.
-/

namespace RelationalQuery.Compile

open Sql (Clause Column Condition)

variable {c : Context}

/-! ## Comparisons -/

theorem blank_equals (column : Column) (value : Value) :
    (equals column value.blank).blank = (equals column value).blank := by
  cases value with
  | null => rfl
  | list items => exact congrArg (Condition.compare column .eq) (Value.blank_blank (.list items))
  | object members =>
    exact congrArg (Condition.compare column .eq) (Value.blank_blank (.object members))
  | _ => rfl

theorem map_blank_members (value : Value) :
    (members value.blank).map Value.blank = (members value).map Value.blank := by
  cases value with
  | list items =>
    rw [Value.blank, members, members, ← Value.blankItems_eq_map, Value.blankItems_blankItems,
      Value.blankItems_eq_map]
  | object entries => exact congrArg ([·]) (Value.blank_blank (.object entries))
  | _ => rfl

/-- Whether there is a text to search for does not depend on which it is. -/
theorem blank_searchText (op : Comparison) (field : String) (value : Value) :
    (fun _ => ()) <$> searchText op field value.blank =
      (fun _ => ()) <$> searchText op field value := by
  cases value <;> rfl

theorem blank_compareWith (column : Column) (field : String) (op : Comparison) (value : Value) :
    Condition.blank <$> compareWith column field op value.blank =
      Condition.blank <$> compareWith column field op value := by
  cases op with
  | equals => exact congrArg Except.ok (blank_equals column value)
  | not =>
    cases value with
    | list items =>
      exact congrArg (Except.ok <| Condition.compare column .ne ·)
        (Value.blank_blank (.list items))
    | object members =>
      exact congrArg (Except.ok <| Condition.compare column .ne ·)
        (Value.blank_blank (.object members))
    | _ => rfl
  | isIn => exact congrArg (Except.ok <| Condition.member column false ·) (map_blank_members value)
  | notIn => exact congrArg (Except.ok <| Condition.member column true ·) (map_blank_members value)
  | lt => exact congrArg (Except.ok <| Condition.compare column .lt ·) (Value.blank_blank value)
  | lte => exact congrArg (Except.ok <| Condition.compare column .le ·) (Value.blank_blank value)
  | gt => exact congrArg (Except.ok <| Condition.compare column .gt ·) (Value.blank_blank value)
  | gte => exact congrArg (Except.ok <| Condition.compare column .ge ·) (Value.blank_blank value)
  | search place insensitive =>
    rw [compareWith, compareWith]
    exact map_bind_congr (blank_searchText _ field value) fun _ _ _ => rfl

theorem unknownKeys_blankMembers (operators : Dict Value) :
    unknownKeys (Value.blankMembers operators) = unknownKeys operators := by
  rw [unknownKeys, unknownKeys, Value.blankMembers_eq_mapValues, Dict.keys_mapValues]

/-- A comparison with an operand that is not made of comparisons. -/
theorem blank_comparison_plain (column : Column) (field key : String) {value : Value}
    (h : ∀ nested, value ≠ .object nested) :
    Condition.blank <$> comparison column field key value.blank =
      Condition.blank <$> comparison column field key value := by
  have hblank : ∀ nested, value.blank ≠ .object nested := by
    intro nested
    cases value with
    | object members => exact absurd rfl (h members)
    | _ => exact Value.noConfusion
  rw [comparison, comparison]
  · cases Comparison.ofKey? key with
    | none => rfl
    | some op => exact blank_compareWith column field op value
  · exact h
  · exact hblank

mutual

theorem blank_comparison (column : Column) (field key : String) : ∀ value : Value,
    Condition.blank <$> comparison column field key value.blank =
      Condition.blank <$> comparison column field key value
  | .object nested => by
    rw [Value.blank, comparison, comparison]
    cases Comparison.ofKey? key with
    | none => rfl
    | some op =>
      have hother : Condition.blank <$> compareWith column field op
          (.object (Value.blankMembers nested)) =
            Condition.blank <$> compareWith column field op (.object nested) :=
        blank_compareWith column field op (.object nested)
      cases op with
      | not =>
        -- an object under `not` is a list of comparisons, whose keys are not values
        have hempty : (Value.blankMembers nested).isEmpty = nested.isEmpty := by
          rw [Value.blankMembers_eq_mapValues, Dict.isEmpty_mapValues]
        dsimp only
        rw [hempty, unknownKeys_blankMembers]
        split
        · rfl
        · split
          · refine map_bind_congr (blank_eachComparison column field nested) fun a b h => ?_
            exact congrArg (Except.ok <| Condition.negation ·) h
          · rfl
      | _ => exact hother
  | .null | .bool _ | .int _ | .float _ | .text _ | .moment _ | .json _ | .bytes _ | .list _ =>
    blank_comparison_plain column field key fun _ => Value.noConfusion

theorem blank_eachComparison (column : Column) (field : String) :
    ∀ operators : List (String × Value),
      Clause.blank <$> eachComparison column field (Value.blankMembers operators) =
        Clause.blank <$> eachComparison column field operators
  | [] => rfl
  | (key, operand) :: rest => by
    rw [Value.blankMembers, eachComparison, eachComparison]
    refine map_bind_congr (blank_comparison column field key operand) fun a b h => ?_
    refine map_bind_congr (blank_eachComparison column field rest) fun as bs hrest => ?_
    show Except.ok (a.blank :: Clause.blank as) = Except.ok (b.blank :: Clause.blank bs)
    rw [h, hrest]

end

theorem blank_comparisons (column : Column) (field : String) (operators : Dict Value) :
    Clause.blank <$> comparisons column field (Value.blankMembers operators) =
      Clause.blank <$> comparisons column field operators := by
  rw [comparisons, comparisons, unknownKeys_blankMembers]
  split
  · exact blank_eachComparison column field operators
  · rfl

/-! ## Filters -/

/-- Clauses that look the same are combined to clauses that do. -/
theorem blank_combined (connective : Connective) {as bs : List Clause}
    (h : Clause.blankAll as = Clause.blankAll bs) :
    Clause.blank (combined connective as) = Clause.blank (combined connective bs) := by
  have hnot (clauses : List Clause) : Clause.blank (clauses.map .negation) =
      (Clause.blankAll clauses).map .negation := by
    induction clauses with
    | nil => rfl
    | cons clause rest ih => exact congrArg (Condition.negation (Clause.blank clause) :: ·) ih
  cases connective with
  | all => exact congrArg ([Condition.junction true ·]) h
  | any => exact congrArg ([Condition.junction false ·]) h
  | not =>
    show Clause.blank (as.map .negation) = Clause.blank (bs.map .negation)
    rw [hnot, hnot, h]

/-- Clauses that look the same are quantified to conditions that do. -/
theorem blank_quantified (quantifier : Quantifier) (entry : Entry) {a b : Clause}
    (h : Clause.blank a = Clause.blank b) :
    (quantified quantifier entry a).blank = (quantified quantifier entry b).blank := by
  cases quantifier with
  | some => exact congrArg (Condition.subquery false entry.source entry.left entry.right ·) h
  | none => exact congrArg (Condition.subquery true entry.source entry.left entry.right ·) h
  | every =>
    exact congrArg (Condition.subquery true entry.source entry.left entry.right [.negation ·]) h

mutual

/-- The conditions of a filter look the same without its values, and draw the same names. -/
theorem blank_conditions (scope : Scope) : ∀ filter : List (String × Criterion),
    Clause.blank <$> conditions c scope (Filter.blank filter) =
      Clause.blank <$> conditions c scope filter
  | [] => rfl
  | (key, criterion) :: rest => by
    rw [Filter.blank, conditions, conditions]
    refine map_bind_congr_state (blank_criterionConditions scope key criterion) fun a b h => ?_
    refine map_bind_congr_state (blank_conditions scope rest) fun as bs hrest => ?_
    rw [map_pure, map_pure, Clause.blank_append, Clause.blank_append, h, hrest]

theorem blank_criterionConditions (scope : Scope) (key : String) : ∀ criterion : Criterion,
    Clause.blank <$> criterionConditions c scope key criterion.blank =
      Clause.blank <$> criterionConditions c scope key criterion
  | .literal value => by
    rw [Criterion.blank, criterionConditions, criterionConditions]
    refine map_bind_congr_right _ fun _ => ?_
    exact congrArg (fun condition : Condition => (pure [condition] : Naming Clause))
      (blank_equals (scope.row.field c key) value)
  | .comparison operators => by
    rw [Criterion.blank, criterionConditions, criterionConditions]
    refine map_bind_congr_right _ fun _ => ?_
    rw [map_liftM, map_liftM, blank_comparisons]
  | .logical connective operands => by
    rw [Criterion.blank, criterionConditions, criterionConditions]
    have hclauses : Clause.blank <$> (do
          return combined connective (← clauses c scope (Filter.blankAll operands))) =
        Clause.blank <$> (do return combined connective (← clauses c scope operands)) := by
      refine map_bind_congr_state (blank_clauses scope operands) fun as bs h => ?_
      exact congrArg (pure : Clause → Naming Clause) (blank_combined connective h)
    split
    · rfl
    · exact hclauses
  | .related quantifier nested => by
    rw [Criterion.blank, criterionConditions, criterionConditions]
    refine map_bind_congr_right _ fun relation => ?_
    refine map_bind_congr_right _ fun _ => ?_
    -- the tables of the subquery are named before the nested filter is looked at
    refine map_bind_congr_right _ fun entry => ?_
    refine map_bind_congr_state (blank_conditions _ nested) fun a b h => ?_
    exact congrArg (fun condition : Condition => (pure [condition] : Naming Clause))
      (blank_quantified quantifier entry h)

theorem blank_clauses (scope : Scope) : ∀ filters : List (List (String × Criterion)),
    Clause.blankAll <$> clauses c scope (Filter.blankAll filters) =
      Clause.blankAll <$> clauses c scope filters
  | [] => rfl
  | filter :: rest => by
    rw [Filter.blankAll, clauses, clauses]
    refine map_bind_congr_state (blank_conditions scope filter) fun a b h => ?_
    refine map_bind_congr_state (blank_clauses scope rest) fun as bs hrest => ?_
    rw [map_pure, map_pure, Clause.blankAll, Clause.blankAll, h, hrest]

end

/-- The clause of a filter looks the same without its values. -/
theorem blank_clauseOf (row : Occurrence) (visible : List String) (filter : Filter) :
    Clause.blank <$> clauseOf c row visible (Filter.blank filter) =
      Clause.blank <$> clauseOf c row visible filter := by
  have hrun : (fun r : Clause × List String => (Clause.blank r.1, r.2)) <$>
      conditions c ⟨row, visible, false⟩ (Filter.blank filter) visible =
        (fun r : Clause × List String => (Clause.blank r.1, r.2)) <$>
          conditions c ⟨row, visible, false⟩ filter visible :=
    congrFun (blank_conditions ⟨row, visible, false⟩ filter) visible
  refine map_bind_congr hrun fun r r' h => ?_
  exact congrArg Except.ok (Prod.mk.inj h).1

/-- The clause of a filter that may be missing looks the same without its values. -/
theorem blank_optionalClause (row : Occurrence) (visible : List String) (filter : Option Filter) :
    Clause.blank <$> optionalClause c row visible (filter.map Filter.blank) =
      Clause.blank <$> optionalClause c row visible filter := by
  cases filter with
  | none => rfl
  | some filter => exact blank_clauseOf row visible filter

end RelationalQuery.Compile
