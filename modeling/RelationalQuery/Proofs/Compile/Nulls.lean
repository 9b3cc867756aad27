import RelationalQuery.Proofs.Compile.Accepted
import RelationalQuery.Proofs.Compile.Bound
import RelationalQuery.Proofs.Compile.Idle
import RelationalQuery.Proofs.Compile.Vetted

/-!
# Nulls in conditions

A null in a filter is written as `IS NULL` or `IS NOT NULL` where a field is to equal it or not, and
refused where a text is searched for. In the place of any other operand it is bound like every value:
`Criterion.BindsNull` says of which criteria. So the conditions of a statement bind a null if and only
if the filter that they come from has such a criterion, at whatever depth. The conditions of computed
fields never do.

## Shape of the proof

One equivalence for each step of the way from an operand to a plan. Filters are followed along their
entries, which need not be told apart by the scope that they are compiled in.
-/

namespace RelationalQuery

/-! ## Filters that bind nulls -/

/-- Whether a comparison binds a null: an order with a null, a membership in a list that has one, or a
negation of comparisons of which one does. -/
inductive Comparison.BindsNull : String → Value → Prop
  | order {op : Comparison} (ordering : op ∈ [.lt, .lte, .gt, .gte]) : BindsNull op.key .null
  | member {op : Comparison} {operand : Value} (membership : op ∈ [.isIn, .notIn])
    (null : .null ∈ Compile.members operand) : BindsNull op.key operand
  | negated {nested : Dict Value} {entry : String × Value} (mem : entry ∈ nested)
    (below : BindsNull entry.1 entry.2) : BindsNull Comparison.not.key (.object nested)

theorem Comparison.key_injective {a b : Comparison} (h : a.key = b.key) : a = b := by
  have hkey := Comparison.ofKey?_key a
  rw [h, Comparison.ofKey?_key] at hkey
  exact (Option.some.inj hkey).symm

/-- The ways in which a comparison with a known key binds a null. -/
theorem Comparison.bindsNull_key_iff {op : Comparison} {operand : Value} :
    Comparison.BindsNull op.key operand ↔
      (op ∈ [.lt, .lte, .gt, .gte] ∧ operand = .null ∨
        op ∈ [.isIn, .notIn] ∧ .null ∈ Compile.members operand) ∨
      (op = .not ∧ ∃ nested, operand = .object nested ∧
        ∃ entry ∈ nested, Comparison.BindsNull entry.1 entry.2) := by
  constructor
  · intro h
    generalize hkey : op.key = key at h
    cases h with
    | order ordering => exact .inl (.inl ⟨key_injective hkey ▸ ordering, rfl⟩)
    | member membership null => exact .inl (.inr ⟨key_injective hkey ▸ membership, null⟩)
    | negated mem below => exact .inr ⟨key_injective hkey, _, rfl, _, mem, below⟩
  · rintro ((⟨ordering, rfl⟩ | ⟨membership, null⟩) | ⟨rfl, nested, rfl, entry, mem, below⟩)
    · exact .order ordering
    · exact .member membership null
    · exact .negated mem below

/-- Whether a criterion binds a null: by one of its comparisons, or by a criterion inside of it. -/
inductive Criterion.BindsNull : Criterion → Prop
  | comparison {operators : Dict Value} {entry : String × Value} (mem : entry ∈ operators)
    (null : Comparison.BindsNull entry.1 entry.2) : BindsNull (.comparison operators)
  | logical {connective : Connective} {operands : List Filter} {operand : Filter}
    {entry : String × Criterion} (mem : operand ∈ operands) (inside : entry ∈ operand)
    (below : BindsNull entry.2) : BindsNull (.logical connective operands)
  | related {quantifier : Quantifier} {nested : Filter} {entry : String × Criterion}
    (inside : entry ∈ nested) (below : BindsNull entry.2) : BindsNull (.related quantifier nested)

/-- Whether a filter binds a null. -/
def Filter.BindsNull (filter : Filter) : Prop := ∃ entry ∈ filter, entry.2.BindsNull

namespace Compile

open Sql

variable {c : Context} {column : Column} {field key : String} {clause : Clause}

/-! ## Comparisons -/

/-- What is compared with a single operand binds a null if it is ordered by it or a member of it. -/
theorem null_mem_compareWith {op : Comparison} {operand : Value} {condition : Condition}
    (hop : op = .not → operand.object? = none)
    (h : compareWith column field op operand = .ok condition) :
    .null ∈ condition.values ↔ Comparison.BindsNull op.key operand := by
  have hnot : ¬ (op = .not ∧ ∃ nested, operand = .object nested ∧
      ∃ entry ∈ nested, Comparison.BindsNull entry.1 entry.2) := by
    rintro ⟨rfl, nested, rfl, -⟩
    cases hop rfl
  rw [Comparison.bindsNull_key_iff, or_iff_left hnot]
  cases op with
  | search place insensitive =>
    -- what is searched for is a text
    obtain ⟨text, -, h⟩ := bind_eq_ok_iff.mp h
    obtain rfl := Except.ok.inj h
    simp [Condition.values]
  | equals =>
    obtain rfl := Except.ok.inj h
    cases operand <;> simp [equals, Condition.values]
  | not =>
    obtain rfl := Except.ok.inj h
    cases operand <;> simp [Condition.values]
  | _ =>
    obtain rfl := Except.ok.inj h
    simp [Condition.values, eq_comm]

/-- Comparisons that are compiled together are compiled one by one. -/
theorem eachComparison_of_comparisons {operators : Dict Value}
    (h : comparisons column field operators = .ok clause) :
    eachComparison column field operators = .ok clause := by
  rw [comparisons] at h
  split at h
  · exact h
  · cases h

mutual

/-- Comparisons bind a null if one of them does. -/
theorem null_mem_eachComparison : (operators : List (String × Value)) → {clause : Clause} →
    eachComparison column field operators = .ok clause →
    (.null ∈ clause.values ↔ ∃ entry ∈ operators, Comparison.BindsNull entry.1 entry.2)
  | [], clause, h => by
    obtain rfl := Except.ok.inj h
    simp [Clause.values, Condition.valuesOfClause]
  | (key, operand) :: rest, clause, h => by
    rw [eachComparison, bind_eq_ok_iff] at h
    obtain ⟨first, hfirst, h⟩ := h
    rw [bind_eq_ok_iff] at h
    obtain ⟨others, hothers, h⟩ := h
    obtain rfl := Except.ok.inj h
    have hrest := null_mem_eachComparison rest hothers
    rw [Clause.values] at hrest ⊢
    rw [Condition.valuesOfClause, List.mem_append, null_mem_comparison key operand hfirst, hrest,
      List.exists_mem_cons_iff]

/-- A comparison binds a null as its kind says. -/
theorem null_mem_comparison (key : String) : (operand : Value) → {condition : Condition} →
    comparison column field key operand = .ok condition →
    (.null ∈ condition.values ↔ Comparison.BindsNull key operand)
  | operand, condition, h => by
    cases hkey : Comparison.ofKey? key with
    | none =>
      cases operand <;> simp [comparison, hkey] at h
    | some op =>
      obtain rfl := Comparison.ofKey?_eq_some_iff.mp hkey
      by_cases hop : op = .not → operand.object? = none
      · rw [comparison_key hop] at h
        exact null_mem_compareWith hop h
      · -- comparisons are negated together, and there is at least one
        simp only [Classical.not_imp] at hop
        obtain ⟨rfl, hobject⟩ := hop
        cases operand with
        | object nested =>
          by_cases hempty : nested = []
          · simp [comparison, Comparison.ofKey?_key, hempty] at h
          · rw [comparison_negated hempty] at h
            obtain ⟨clause, hclause, rfl⟩ := map_eq_ok_iff.mp h
            have hnested := null_mem_eachComparison nested (eachComparison_of_comparisons hclause)
            rw [Condition.values, ← Clause.values, hnested, Comparison.bindsNull_key_iff]
            simp
        | _ => exact absurd rfl hobject

end

/-- Comparisons bind a null if one of them does. -/
theorem null_mem_comparisons {operators : Dict Value}
    (h : comparisons column field operators = .ok clause) :
    .null ∈ clause.values ↔ ∃ entry ∈ operators, Comparison.BindsNull entry.1 entry.2 :=
  null_mem_eachComparison operators (eachComparison_of_comparisons h)

/-! ## Filters -/

/-- Combined clauses have the values of all of them. -/
theorem values_combined (connective : Connective) (clauses : List Clause) :
    Clause.values (combined connective clauses) = clauses.flatMap Clause.values := by
  rw [← Condition.valuesOfClauses_eq]
  cases connective with
  | all => exact List.append_nil _
  | any => exact List.append_nil _
  | not =>
    induction clauses with
    | nil => rfl
    | cons clause rest ih =>
      show clause.values ++ Clause.values (rest.map Condition.negation) = _
      rw [show Clause.values (rest.map Condition.negation) = _ from ih, Condition.valuesOfClauses,
        Clause.values]

/-- A subquery has the values of its conditions, however many rows are asked for. -/
theorem values_quantified (quantifier : Quantifier) (entry : Entry) (clause : Clause) :
    (quantified quantifier entry clause).values = clause.values := by
  cases quantifier with
  | some => rfl
  | none => rfl
  | every => exact List.append_nil _

mutual

/-- The conditions of a filter bind a null if and only if the filter does, wherever it stands. -/
theorem null_mem_conditions : (filter : List (String × Criterion)) → {scope : Scope} →
    {clause : Clause} → {used after : List String} →
    conditions c scope filter used = .ok (clause, after) →
    (.null ∈ clause.values ↔ Filter.BindsNull filter)
  | [], scope, clause, used, after, h => by
    obtain ⟨rfl, -⟩ := conditions_nil_eq_ok h
    simp [Clause.values, Condition.valuesOfClause, Filter.BindsNull]
  | (key, criterion) :: rest, scope, clause, used, after, h => by
    obtain ⟨here, others, between, hhere, hothers, rfl⟩ := conditions_cons_eq_ok h
    have hfirst := null_mem_criterionConditions key criterion hhere
    have hrest := null_mem_conditions rest hothers
    have happend : Clause.values (here ++ others) = here.values ++ others.values := by
      simp only [Clause.values, Condition.valuesOfClause_eq, List.flatMap_append]
    rw [Filter.BindsNull] at hrest ⊢
    rw [happend, List.mem_append, hfirst, hrest, List.exists_mem_cons_iff]

/-- The conditions of an entry bind a null if and only if its criterion does. -/
theorem null_mem_criterionConditions (key : String) : (criterion : Criterion) → {scope : Scope} →
    {clause : Clause} → {used after : List String} →
    criterionConditions c scope key criterion used = .ok (clause, after) →
    (.null ∈ clause.values ↔ criterion.BindsNull)
  | .literal value, scope, clause, used, after, h => by
    obtain ⟨-, rfl, -⟩ := literal_eq_ok h
    refine iff_of_false ?_ fun hnull => by cases hnull
    cases value <;>
      simp [equals, Clause.values, Condition.valuesOfClause, Condition.values]
  | .comparison operators, scope, clause, used, after, h => by
    obtain ⟨-, hcomparisons, -⟩ := comparison_eq_ok h
    rw [null_mem_comparisons hcomparisons]
    constructor
    · rintro ⟨entry, mem, null⟩
      exact .comparison mem null
    · intro hnull
      cases hnull with
      | comparison mem null => exact ⟨_, mem, null⟩
  | .logical connective operands, scope, clause, used, after, h => by
    obtain ⟨-, parts, hparts, rfl⟩ := logical_eq_ok h
    rw [values_combined, null_mem_clauses operands hparts]
    constructor
    · rintro ⟨operand, mem, entry, inside, below⟩
      exact .logical mem inside below
    · intro hnull
      cases hnull with
      | logical mem inside below => exact ⟨_, mem, _, inside, below⟩
  | .related quantifier nested, scope, clause, used, after, h => by
    obtain ⟨relation, entry, between, inner, -, -, -, hinner, rfl⟩ := related_eq_ok h
    have hsingle : Clause.values [quantified quantifier entry inner] = inner.values := by
      rw [Clause.values, Condition.valuesOfClause, Condition.valuesOfClause, List.append_nil,
        values_quantified]
    rw [hsingle, null_mem_conditions nested hinner]
    constructor
    · rintro ⟨entry, inside, below⟩
      exact .related inside below
    · intro hnull
      cases hnull with
      | related inside below => exact ⟨_, inside, below⟩

/-- The clauses of filters bind a null if and only if one of the filters does. -/
theorem null_mem_clauses : (filters : List (List (String × Criterion))) → {scope : Scope} →
    {parts : List Clause} → {used after : List String} →
    clauses c scope filters used = .ok (parts, after) →
    (.null ∈ parts.flatMap Clause.values ↔ ∃ filter ∈ filters, Filter.BindsNull filter)
  | [], scope, parts, used, after, h => by
    obtain ⟨rfl, -⟩ := clauses_nil_eq_ok h
    simp
  | filter :: rest, scope, parts, used, after, h => by
    obtain ⟨clause, others, between, hclause, hothers, rfl⟩ := clauses_cons_eq_ok h
    rw [List.flatMap_cons, List.mem_append, null_mem_conditions filter hclause,
      null_mem_clauses rest hothers, List.exists_mem_cons_iff]

end

/-- The clause of a filter binds a null if and only if the filter does. -/
theorem null_mem_clauseOf {row : Occurrence} {visible : List String} {filter : Filter}
    (h : clauseOf c row visible filter = .ok clause) :
    .null ∈ clause.values ↔ filter.BindsNull := by
  obtain ⟨⟨clause, after⟩, hconditions, rfl⟩ := map_eq_ok_iff.mp h
  exact null_mem_conditions filter hconditions

/-- Without a filter nothing is bound. -/
theorem null_mem_optionalClause {row : Occurrence} {visible : List String} {filter : Option Filter}
    (h : optionalClause c row visible filter = .ok clause) :
    .null ∈ clause.values ↔ ∃ given, filter = some given ∧ given.BindsNull := by
  cases filter with
  | none =>
    obtain rfl := Except.ok.inj h
    simp [Clause.values, Condition.valuesOfClause]
  | some given =>
    rw [null_mem_clauseOf h]
    simp

/-! ## Joins -/

/-- The filters that a selection puts on related rows, however far below the rows of the model. -/
inductive IncludesFilter (s : Schema) (model : String) (selection : Selection) : Filter → Prop
  | intro {parent name : String} {above below : Selection} {arguments : Arguments}
    {relation : Relation} {filter : Filter} (reached : Reached s model selection parent above)
    (nested : (name, .nested arguments below) ∈ above.fields)
    (resolved : s.relation? parent name = some relation) (given : arguments.filter = some filter) :
    IncludesFilter s model selection filter

/-- The filter of a relation that is asked for. -/
def IncludeTree.filter : IncludeTree → Option Filter
  | node _ _ filter _ _ => filter

theorem PlannedJoin.filter_ofTree (c : Context) (n : Nat) (parent : Occurrence)
    (tree : IncludeTree) : (PlannedJoin.ofTree c n parent tree).filter = tree.filter := by
  cases tree
  rfl

/-- The filters of what a selection asks for are among those that the whole selection has. -/
theorem includesFilter_of_mem_forest {s : Schema} {model parent : String}
    {selection above : Selection} (hreached : Reached s model selection parent above)
    {tree : IncludeTree} (htree : tree ∈ forest s parent above) {filter : Filter}
    (hfilter : tree.filter = some filter) : IncludesFilter s model selection filter := by
  obtain ⟨name, field, relation, hmem, hrelation, htree⟩ := mem_forest_iff.mp htree
  cases field with
  | flag on =>
    cases on with
    | false =>
      rw [treeOfField] at htree
      exact absurd htree List.not_mem_nil
    | true =>
      rw [treeOfField] at htree
      obtain rfl := List.mem_singleton.mp htree
      cases hfilter
  | nested arguments below =>
    rw [treeOfField] at htree
    obtain rfl := List.mem_singleton.mp htree
    exact .intro hreached hmem hrelation hfilter

/-- The filters of the joins are those that the selection puts on related rows. -/
theorem exists_filter_iff {base : Occurrence} {selection : Selection} {joins : List PlannedJoin}
    (h : planJoins c base selection = .ok joins) {filter : Filter} :
    (∃ join ∈ joins, join.filter = some filter) ↔
      IncludesFilter c.schema base.model selection filter := by
  constructor
  · rintro ⟨join, hjoin, hfilter⟩
    obtain rfl := eq_number_of_planJoins h
    -- what is below a tree is asked for of rows that the selection reaches, as the tree itself is
    have hall := forall_mem_number (c := c)
      (P := fun join => ∀ filter, join.filter = some filter →
        IncludesFilter c.schema base.model selection filter)
      (Q := fun tree => Grown c.schema base.model selection tree ∧ ∀ filter,
        tree.filter = some filter → IncludesFilter c.schema base.model selection filter)
      (fun n parent tree htree filter hfilter =>
        htree.2 filter (PlannedJoin.filter_ofTree c n parent tree ▸ hfilter))
      (fun tree htree child hchild => by
        obtain ⟨hreached⟩ := htree.1
        exact ⟨htree.1.children child hchild,
          fun filter => includesFilter_of_mem_forest hreached hchild⟩)
      1 ((forest c.schema base.model selection).map fun tree => (base, tree))
      (fun entry hentry => by
        obtain ⟨tree, htree, rfl⟩ := List.mem_map.mp hentry
        exact ⟨grown_of_mem_forest .queried tree htree,
          fun filter => includesFilter_of_mem_forest .queried htree⟩)
    exact hall join hjoin filter hfilter
  · rintro ⟨reached, nested, resolved, given⟩
    obtain ⟨n, parent, hjoin, -⟩ := joined_of_within h (within_of_reached reached _
      (mem_forest_iff.mpr ⟨_, _, _, nested, resolved, List.mem_singleton.mpr rfl⟩))
    exact ⟨_, hjoin, given⟩

/-- Rendered joins bind a null if and only if one of the filters on related rows does. -/
theorem null_mem_joined {base : Occurrence} {visible : List String} {selection : Selection}
    {joins : List PlannedJoin} {joined : List Join} (h : planJoins c base selection = .ok joins)
    (hrendered : joins.mapM (renderJoin c visible) = .ok joined) :
    .null ∈ joined.flatMap Join.values ↔
      ∃ filter, IncludesFilter c.schema base.model selection filter ∧ filter.BindsNull := by
  have hjoin {join : PlannedJoin} {rendered : Join} (h : renderJoin c visible join = .ok rendered) :
      .null ∈ rendered.values ↔ ∃ filter, join.filter = some filter ∧ filter.BindsNull := by
    rw [renderJoin, bind_eq_ok_iff] at h
    obtain ⟨steps, -, h⟩ := h
    obtain ⟨conditions, hconditions, h⟩ := bind_eq_ok_iff.mp h
    obtain rfl := Except.ok.inj h
    exact null_mem_optionalClause hconditions
  rw [List.mem_flatMap]
  constructor
  · rintro ⟨rendered, hmem, hnull⟩
    obtain ⟨join, hjoinMem, hrender⟩ := exists_of_mem_mapM hrendered hmem
    obtain ⟨filter, hfilter, hbinds⟩ := (hjoin hrender).mp hnull
    exact ⟨filter, (exists_filter_iff h).mp ⟨join, hjoinMem, hfilter⟩, hbinds⟩
  · rintro ⟨filter, hincludes, hbinds⟩
    obtain ⟨join, hjoinMem, hfilter⟩ := (exists_filter_iff h).mpr hincludes
    obtain ⟨rendered, hmem, hrender⟩ := ok_of_mem_mapM hrendered hjoinMem
    exact ⟨rendered, hmem, (hjoin hrender).mpr ⟨filter, hfilter, hbinds⟩⟩

/-! ## Items -/

/-- Whether an item binds no null. -/
def IsNullFree (item : Item) : Prop := .null ∉ item.counted ∧ .null ∉ item.computed

theorem isNullFree_baseItems {base : Occurrence} {q : Query} :
    ∀ item ∈ baseItems c base q, IsNullFree item := by
  intro item hitem
  rw [baseItems] at hitem
  split at hitem
  · obtain ⟨field, -, rfl⟩ := List.mem_map.mp hitem
    exact ⟨List.not_mem_nil, List.not_mem_nil⟩
  · split at hitem <;> obtain rfl := List.mem_singleton.mp hitem <;> exact ⟨List.not_mem_nil, List.not_mem_nil⟩

theorem isNullFree_joinedItems {join : PlannedJoin} : ∀ item ∈ joinedItems join, IsNullFree item := by
  intro item hitem
  rw [joinedItems] at hitem
  split at hitem
  · obtain ⟨column, -, rfl⟩ := List.mem_map.mp hitem
    exact ⟨List.not_mem_nil, List.not_mem_nil⟩
  · obtain rfl := List.mem_singleton.mp hitem
    exact ⟨List.not_mem_nil, List.not_mem_nil⟩

theorem isNullFree_plainAggregates (c : Context) (model : String) (spec : Aggregates) :
    ∀ item ∈ plainAggregates c model spec, IsNullFree item := by
  have haggregates {function key : String} (fields : List String) :
      ∀ item ∈ fields.map (aggregateItem c model function key), IsNullFree item := by
    intro item hitem
    obtain ⟨field, -, rfl⟩ := List.mem_map.mp hitem
    exact ⟨List.not_mem_nil, List.not_mem_nil⟩
  rw [plainAggregates]
  simp only [List.forall_mem_append]
  refine ⟨⟨⟨⟨?_, haggregates _⟩, haggregates _⟩, haggregates _⟩, haggregates _⟩
  split
  · refine List.forall_mem_append.mpr ⟨?_, haggregates _⟩
    split
    · exact List.forall_mem_singleton.mpr ⟨List.not_mem_nil, List.not_mem_nil⟩
    · exact List.forall_mem_nil _
  · exact List.forall_mem_nil _

/-- A computed field reads its table, and its correlations are with fields and values. -/
theorem exists_correlated_of_planComputed {base : Occurrence} {aliasName : String}
    {field : ComputedField} {item : Item} (h : planComputed c base aliasName field = .ok item) :
    ∃ query, item = .scalar query aliasName ∧ query.table = readTable c field.table ∧
      query.conditions =
        field.correlations.map (correlated c base (readColumn c field.table)) := by
  rw [planComputed, bind_eq_ok_iff] at h
  obtain ⟨-, -, h⟩ := h
  dsimp only at h
  split at h
  · exact ⟨_, (Except.ok.inj h).symm, rfl, rfl⟩
  · exact ⟨_, (Except.ok.inj h).symm, rfl, rfl⟩
  · cases h

/-- Correlations with a null compare with no value. -/
theorem null_notMem_correlated (base : Occurrence) (column : String → Column) (key : String)
    (correlation : Correlation) : .null ∉ (correlated c base column (key, correlation)).values := by
  cases correlation with
  | field name => exact List.not_mem_nil
  | value v => cases v <;> simp [correlated, Match.values]

/-- A computed field binds no null. -/
theorem isNullFree_planComputed {base : Occurrence} {aliasName : String} {field : ComputedField}
    {item : Item} (h : planComputed c base aliasName field = .ok item) :
    IsNullFree item := by
  obtain ⟨query, rfl, -, hconditions⟩ := exists_correlated_of_planComputed h
  refine ⟨List.not_mem_nil, ?_⟩
  rw [Item.computed, ScalarQuery.values, hconditions, List.mem_flatMap]
  rintro ⟨condition, hcondition, hnull⟩
  obtain ⟨⟨key, correlation⟩, -, rfl⟩ := List.mem_map.mp hcondition
  exact null_notMem_correlated base _ key correlation hnull

/-! ## Plans -/

variable {q : Query} {filtered : Bool}

/-- Whether the filter of a query binds a null. -/
def FilterBindsNull (q : Query) : Prop :=
  ∃ given, q.arguments.filter = some given ∧ given.BindsNull

/-- Whether a filtered count of a query binds a null. -/
def CountBindsNull (q : Query) : Prop :=
  ∃ counted ∈ (q.arguments.aggregates.getD {}).filtered, counted.2.BindsNull

/-- Whether a filter on related rows of a query binds a null. -/
def IncludeBindsNull (s : Schema) (q : Query) : Prop :=
  ∃ filter, IncludesFilter s q.model (q.selection.getD {}) filter ∧ filter.BindsNull

/-- Where a plan binds a null: in the conditions on its rows, in filtered counts and in joins, if it
has these and the filter there binds one, and not in computed fields. -/
structure Plan.Nulls (s : Schema) (q : Query) (p : Plan) (filters counts joins : Bool) : Prop where
  condition : .null ∈ p.bound .condition ↔ filters = true ∧ FilterBindsNull q
  filter : .null ∈ p.bound .filter ↔ counts = true ∧ CountBindsNull q
  join : .null ∈ p.bound .join ↔ joins = true ∧ IncludeBindsNull s q
  computed : .null ∉ p.bound .computed

/-- Items without nulls bind none together. -/
theorem null_notMem_flatMap {items : List Item} (h : ∀ item ∈ items, IsNullFree item) :
    .null ∉ items.flatMap Item.counted ∧ .null ∉ items.flatMap Item.computed := by
  simp only [List.mem_flatMap, not_exists, not_and]
  exact ⟨fun item hitem => (h item hitem).1, fun item hitem => (h item hitem).2⟩

/-- A page binds a null if and only if the filter does. -/
theorem null_mem_planPage {take : Option Int64} {page : Page}
    (h : planPage c q.model q.arguments take = .ok page) :
    .null ∈ page.clause.values ↔ FilterBindsNull q := by
  obtain ⟨clause, hclause, h⟩ := bind_eq_ok_iff.mp h
  obtain rfl := Except.ok.inj h
  exact null_mem_optionalClause hclause

/-- The rows of a count or an aggregate bind a null if and only if the filter does. -/
theorem null_mem_planSource {source : Base × Clause} (h : planSource c q = .ok source) :
    .null ∈ source.1.values ++ source.2.values ↔ FilterBindsNull q := by
  rw [planSource] at h
  split at h
  · obtain ⟨page, hpage, h⟩ := bind_eq_ok_iff.mp h
    obtain rfl := Except.ok.inj h
    show .null ∈ page.clause.values ++ [] ↔ _
    rw [List.append_nil]
    exact null_mem_planPage hpage
  · obtain ⟨clause, hclause, h⟩ := bind_eq_ok_iff.mp h
    obtain rfl := Except.ok.inj h
    exact null_mem_optionalClause hclause

/-- A read that finds rows binds a null by its filter or by those on related rows. -/
theorem nulls_of_planFind {r : Read} (h : planFind c q = .ok r) :
    Plan.Nulls c.schema q (.read r) true false true := by
  have hitems {joins : List PlannedJoin} {computed : List Item} {joined : List Join}
      (parts : FindParts c q joins computed joined) :
      ∀ item ∈ findItems c q joins computed, IsNullFree item := by
    intro item hitem
    rw [findItems, List.mem_append, List.mem_append, List.mem_flatMap] at hitem
    rcases hitem with (hitem | ⟨join, -, hitem⟩) | hitem
    · exact isNullFree_baseItems item hitem
    · exact isNullFree_joinedItems item hitem
    · obtain ⟨field, -, hfield⟩ := exists_of_mem_mapM parts.fields hitem
      exact isNullFree_planComputed hfield
  have hjoined {joins : List PlannedJoin} {computed : List Item} {joined : List Join}
      (parts : FindParts c q joins computed joined) :
      .null ∈ joined.flatMap Join.values ↔ true = true ∧ IncludeBindsNull c.schema q := by
    rw [null_mem_joined parts.planned parts.rendered, model_findBase, IncludeBindsNull]
    simp
  cases found_of_planFind h with
  | @paged joins computed joined page parts page_planned =>
    obtain ⟨hcounted, hcomputed⟩ := null_notMem_flatMap (hitems parts)
    refine ⟨?_, iff_of_false hcounted (by simp), hjoined parts, hcomputed⟩
    show .null ∈ page.clause.values ++ [] ↔ _
    rw [List.append_nil, null_mem_planPage page_planned]
    simp
  | @direct joins computed joined clause parts clause_planned =>
    obtain ⟨hcounted, hcomputed⟩ := null_notMem_flatMap (hitems parts)
    refine ⟨?_, iff_of_false hcounted (by simp), hjoined parts, hcomputed⟩
    show .null ∈ clause.values ↔ _
    rw [null_mem_optionalClause clause_planned, FilterBindsNull]
    simp

/-- A read without joins binds a null by its rows or its filtered counts. -/
theorem nulls_of_source (source : Base × Clause) {items : List Item} {groupBy : List Column}
    {orderBy : List OrderKey} {take skip : Option Int64} {counts : Bool}
    (hsource : .null ∈ source.1.values ++ source.2.values ↔ FilterBindsNull q)
    (hcounted : .null ∈ items.flatMap Item.counted ↔ counts = true ∧ CountBindsNull q)
    (hcomputed : .null ∉ items.flatMap Item.computed) :
    Plan.Nulls c.schema q (.read { select :=
      { items, base := source.1, clause := source.2, groupBy, orderBy, take, skip } })
      true counts false where
  condition := hsource.trans (by simp)
  filter := hcounted
  join := iff_of_false List.not_mem_nil (by simp)
  computed := hcomputed

/-- Aggregates bind a null if and only if one of the filtered counts does, and the dialect has
these. -/
theorem null_mem_planAggregates {row : Occurrence} {items : List Item}
    (h : planAggregates c filtered row (q.arguments.aggregates.getD {}) = .ok items) :
    (.null ∈ items.flatMap Item.counted ↔ filtered = true ∧ CountBindsNull q) ∧
      .null ∉ items.flatMap Item.computed := by
  have hplain := null_notMem_flatMap
    (isNullFree_plainAggregates c row.model (q.arguments.aggregates.getD {}))
  rw [planAggregates] at h
  split at h
  · next hfiltered =>
    obtain ⟨counts, hcounts, h⟩ := bind_eq_ok_iff.mp h
    obtain rfl := Except.ok.inj h
    have hcount {counted : String × Filter} {item : Item}
        (h : (do return Item.filteredCount (← clauseOf c row [row.name] counted.2) counted.1) =
          Except.ok item) :
        (.null ∈ item.counted ↔ counted.2.BindsNull) ∧ item.computed = [] := by
      obtain ⟨clause, hclause, h⟩ := bind_eq_ok_iff.mp h
      obtain rfl := Except.ok.inj h
      exact ⟨null_mem_clauseOf hclause, rfl⟩
    rw [List.flatMap_append, List.flatMap_append, List.mem_append, List.mem_append,
      or_iff_right hplain.1, or_iff_right hplain.2, List.mem_flatMap, List.mem_flatMap]
    refine ⟨⟨?_, ?_⟩, ?_⟩
    · rintro ⟨item, hitem, hnull⟩
      obtain ⟨counted, hmem, hplanned⟩ := exists_of_mem_mapM hcounts hitem
      exact ⟨hfiltered, counted, hmem, (hcount hplanned).1.mp hnull⟩
    · rintro ⟨-, counted, hmem, hnull⟩
      obtain ⟨item, hitem, hplanned⟩ := ok_of_mem_mapM hcounts hmem
      exact ⟨item, hitem, (hcount hplanned).1.mpr hnull⟩
    · rintro ⟨item, hitem, hnull⟩
      obtain ⟨counted, -, hplanned⟩ := exists_of_mem_mapM hcounts hitem
      rw [(hcount hplanned).2] at hnull
      exact List.not_mem_nil hnull
  · next hfiltered =>
    obtain rfl := Except.ok.inj h
    rw [List.append_nil]
    exact ⟨iff_of_false hplain.1 fun hboth => hfiltered hboth.1, hplain.2⟩

/-- A read that counts rows binds a null by its filter alone. -/
theorem nulls_of_planCount {r : Read} (h : planCount c q = .ok r) :
    Plan.Nulls c.schema q (.read r) true false false := by
  obtain ⟨source, hsource, rfl⟩ := exists_of_planCount h
  exact nulls_of_source source (null_mem_planSource hsource) (iff_of_false List.not_mem_nil (by simp))
    List.not_mem_nil

/-- A read that aggregates rows binds a null by its filter or by filtered counts. -/
theorem nulls_of_planAggregate {r : Read} (h : planAggregate c filtered q = .ok r) :
    Plan.Nulls c.schema q (.read r) true filtered false := by
  obtain ⟨items, source, hitems, hsource, rfl⟩ := aggregates_of_planAggregate h
  obtain ⟨hcounted, hcomputed⟩ := null_mem_planAggregates hitems
  exact nulls_of_source source (null_mem_planSource hsource) hcounted hcomputed

/-- A read that aggregates rows in groups binds a null by its filter or by filtered counts. -/
theorem nulls_of_planGroupBy {r : Read} (h : planGroupBy c filtered q = .ok r) :
    Plan.Nulls c.schema q (.read r) true filtered false := by
  obtain ⟨aggregates, clause, haggregates, hclause, rfl⟩ := exists_of_planGroupBy h
  obtain ⟨hcounted, hcomputed⟩ := null_mem_planAggregates haggregates
  have hgroups : ∀ item ∈ (q.arguments.groupBy.map ((Occurrence.plain c q.model).field c)).map
      Item.column, IsNullFree item := by
    intro item hitem
    obtain ⟨column, -, rfl⟩ := List.mem_map.mp hitem
    exact ⟨List.not_mem_nil, List.not_mem_nil⟩
  have hnone := null_notMem_flatMap hgroups
  refine nulls_of_source (.table (Occurrence.plain c q.model).table, clause)
    (null_mem_optionalClause hclause) ?_ ?_
  · rw [List.flatMap_append, List.mem_append, or_iff_right hnone.1]
    exact hcounted
  · rw [List.flatMap_append, List.mem_append, or_iff_right hnone.2]
    exact hcomputed

/-- A write binds a null in its conditions alone. -/
theorem nulls_of_write {w : Sql.Write} {filters : Bool}
    (h : .null ∈ w.asked ↔ filters = true ∧ FilterBindsNull q) :
    Plan.Nulls c.schema q (.write w) filters false false where
  condition := h
  filter := iff_of_false List.not_mem_nil (by simp)
  join := iff_of_false List.not_mem_nil (by simp)
  computed := List.not_mem_nil

/-- The plan of a query binds a null where the filters that its action uses do. -/
theorem nulls_of_plan {p : Plan} (h : plan c filtered q = .ok p) :
    p.Nulls c.schema q q.action.filtersRows (q.action.aggregates && filtered) q.action.isRead := by
  rw [plan, bind_eq_ok_iff] at h
  obtain ⟨-, -, h⟩ := h
  have hwritten {clause : Clause} (hclause : writtenClause c q = .ok clause) :
      .null ∈ clause.values ↔ true = true ∧ FilterBindsNull q :=
    (null_mem_optionalClause hclause).trans (by simp [FilterBindsNull])
  have hnone : .null ∈ ([] : List Value) ↔ false = true ∧ FilterBindsNull q :=
    iff_of_false List.not_mem_nil (by simp)
  have hfind (h : Plan.read <$> planFind c q = .ok p) : p.Nulls c.schema q true false true := by
    obtain ⟨r, hr, rfl⟩ := map_eq_ok_iff.mp h
    exact nulls_of_planFind hr
  have hupdate {returned : Bool} (h : Plan.write <$> planUpdate c q returned = .ok p) :
      p.Nulls c.schema q true false false := by
    obtain ⟨w, hw, rfl⟩ := map_eq_ok_iff.mp h
    obtain ⟨assignments, clause, hclause, rfl⟩ := exists_of_planUpdate hw
    exact nulls_of_write (hwritten hclause)
  have hdelete (h : Plan.write <$> planDelete c q = .ok p) :
      p.Nulls c.schema q true false false := by
    obtain ⟨w, hw, rfl⟩ := map_eq_ok_iff.mp h
    obtain ⟨clause, hclause, rfl⟩ := exists_of_planDelete hw
    exact nulls_of_write (hwritten hclause)
  cases haction : q.action with
  | findUnique => rw [haction] at h; exact hfind h
  | findUniqueOrThrow => rw [haction] at h; exact hfind h
  | findFirst => rw [haction] at h; exact hfind h
  | findFirstOrThrow => rw [haction] at h; exact hfind h
  | findMany => rw [haction] at h; exact hfind h
  | count =>
    rw [haction] at h
    obtain ⟨r, hr, rfl⟩ := map_eq_ok_iff.mp h
    exact nulls_of_planCount hr
  | aggregate =>
    rw [haction] at h
    obtain ⟨r, hr, rfl⟩ := map_eq_ok_iff.mp h
    exact nulls_of_planAggregate hr
  | groupBy =>
    rw [haction] at h
    obtain ⟨r, hr, rfl⟩ := map_eq_ok_iff.mp h
    exact nulls_of_planGroupBy hr
  | create =>
    rw [haction] at h
    obtain ⟨w, hw, rfl⟩ := map_eq_ok_iff.mp h
    obtain ⟨row, rfl⟩ := exists_of_planCreate hw
    exact nulls_of_write hnone
  | createMany =>
    rw [haction] at h
    obtain ⟨w, hw, rfl⟩ := map_eq_ok_iff.mp h
    obtain ⟨columns, rows, rfl⟩ := exists_of_planCreateMany hw
    exact nulls_of_write hnone
  | upsert =>
    rw [haction] at h
    obtain ⟨w, hw, rfl⟩ := map_eq_ok_iff.mp h
    obtain ⟨row, conflict, changes, rfl⟩ := exists_of_planUpsert hw
    exact nulls_of_write hnone
  | update => rw [haction] at h; exact hupdate h
  | updateMany => rw [haction] at h; exact hupdate h
  | delete => rw [haction] at h; exact hdelete h
  | deleteMany => rw [haction] at h; exact hdelete h

/-- Without a selection there are no filters on related rows. -/
theorem not_includesFilter_default {s : Schema} {model : String} {filter : Filter} :
    ¬ IncludesFilter s model {} filter := by
  have hfields {parent : String} {above : Selection} (h : Reached s model {} parent above) :
      above.fields = [] := by
    induction h with
    | queried => rfl
    | flagged reached flagged resolved ih => rfl
    | nested reached nested resolved ih =>
      rw [ih] at nested
      cases nested
  rintro ⟨reached, nested, -, -⟩
  rw [hfields reached] at nested
  cases nested

/-- The main plan of a mutation binds a null where the filters that the action uses do. -/
theorem nulls_of_planMutation {m : MutationPlan} (h : planMutation c filtered q = .ok m) :
    m.main.Nulls c.schema q q.action.filtersRows (q.action.aggregates && filtered)
      q.action.isRead := by
  cases mutated_of_planMutation h with
  | alone hmain => exact nulls_of_plan hmain
  | @connected record row junctions main id writes hdata hsplit hsome haction hmain _ _ =>
    obtain ⟨rfl, hasks⟩ := asks_of_splitRecord hsplit
    have hnulls := nulls_of_plan (plan_ofRow (checkModel_of_asks hasks hsome) hmain)
    rw [Query.ofRow] at hnulls
    split at hnulls
    · next hread =>
      -- what is left of the update is a read of its rows, without selection
      rw [hread.1]
      have hfilter : .null ∉ main.bound .filter := fun hnull => by
        cases (hnulls.filter.mp hnull).1
      have hjoin : .null ∉ main.bound .join := fun hnull => by
        obtain ⟨-, filter, hincludes, -⟩ := hnulls.join.mp hnull
        exact not_includesFilter_default hincludes
      exact ⟨hnulls.condition, iff_of_false hfilter (by simp [Action.aggregates]),
        iff_of_false hjoin (by simp [Action.isRead]), hnulls.computed⟩
    · exact ⟨hnulls.condition, hnulls.filter, hnulls.join, hnulls.computed⟩

end Compile

/-! ## Compilers -/

namespace Compiler

open Compile

variable {k : Compiler} {q : Query} {s : Statement}

/-- The statement of a query, alone or as the main one of a mutation, binds a null in its conditions
if and only if the filter there binds one: the filter of the query, one of a filtered count or one on
related rows, as far as its action uses them. The conditions of computed fields bind none. -/
theorem nulls_bound_iff
    (h : k.statement q = .ok s ∨ ∃ m, k.mutation q = .ok m ∧ m.main = s) :
    ∃ p : Plan, k.Plans q p ∧ s = p.statement k.dialect ∧
      s.args.Perm (ParamGroup.ordered.flatMap p.bound) ∧ p.Nulls k.schema q
        q.action.filtersRows (q.action.aggregates && k.dialect.has .filteredAggregates)
        q.action.isRead := by
  rcases h with h | ⟨m, h, rfl⟩
  · obtain ⟨p, hplan, rfl⟩ := map_eq_ok_iff.mp h
    exact ⟨p, .statement hplan, rfl, p.args_perm k.dialect, nulls_of_plan hplan⟩
  · obtain ⟨m, hplan, rfl⟩ := map_eq_ok_iff.mp h
    exact ⟨m.main, .main hplan, rfl, m.main.args_perm k.dialect, nulls_of_planMutation hplan⟩

/-- A null that a field is to equal is not bound, one that it is not to be a member of is. -/
theorem nulls_bound_iff_deleteUsers :
    (∃ s, users.statement (deleteUsers [("name", .literal .null)]) = .ok s ∧
      ∃ p, users.Plans (deleteUsers [("name", .literal .null)]) p ∧
        s = p.statement .postgres ∧ .null ∉ p.bound .condition) ∧
    ∃ s, users.statement (deleteUsers [("age", .comparison [("notIn", .list [.null])])]) = .ok s ∧
      ∃ p, users.Plans (deleteUsers [("age", .comparison [("notIn", .list [.null])])]) p ∧
        s = p.statement .postgres ∧ .null ∈ p.bound .condition := by
  constructor
  · obtain ⟨s, hs⟩ : ∃ s, users.statement (deleteUsers [("name", .literal .null)]) = .ok s :=
      ⟨_, rfl⟩
    obtain ⟨p, hplans, hstatement, -, hnulls⟩ := nulls_bound_iff (.inl hs)
    refine ⟨s, hs, p, hplans, hstatement, fun hnull => ?_⟩
    obtain ⟨-, given, hgiven, entry, hentry, hbinds⟩ := hnulls.condition.mp hnull
    obtain rfl := Option.some.inj hgiven
    obtain rfl := List.mem_singleton.mp hentry
    cases hbinds
  · obtain ⟨s, hs⟩ : ∃ s, users.statement
        (deleteUsers [("age", .comparison [("notIn", .list [.null])])]) = .ok s := ⟨_, rfl⟩
    obtain ⟨p, hplans, hstatement, -, hnulls⟩ := nulls_bound_iff (.inl hs)
    have hmember : Comparison.BindsNull Comparison.notIn.key (.list [.null]) :=
      .member (by decide) List.mem_cons_self
    exact ⟨s, hs, p, hplans, hstatement, hnulls.condition.mpr ⟨rfl, _, rfl, _, List.mem_cons_self,
      .comparison List.mem_cons_self hmember⟩⟩

/-- Where a field is not to be null or a member of a list with a null, or is to be after a null, the
null is bound, and the comparison holds of no row. -/
theorem statement_deleteUsers_null :
    users.statement (deleteUsers [("age", .comparison [("notIn", .list [.null])])]) =
        .ok { sql := "DELETE FROM \"users\" WHERE \"age\" NOT IN ($1)", args := [.null] } ∧
      users.statement (deleteUsers [("age", .comparison [("gt", .null)])]) =
        .ok { sql := "DELETE FROM \"users\" WHERE \"age\" > $1", args := [.null] } ∧
      users.statement (deleteUsers [("age", .comparison [("not", .null)])]) =
        .ok { sql := "DELETE FROM \"users\" WHERE \"age\" IS NOT NULL", args := [] } :=
  ⟨rfl, rfl, rfl⟩

end Compiler

end RelationalQuery
