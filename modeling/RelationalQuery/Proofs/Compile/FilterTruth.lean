import RelationalQuery.Proofs.Compile.Conditions
import RelationalQuery.Proofs.Compile.Subqueries

/-!
# Clauses mean what filters mean

The clause of a filter is bound where its row stands, and has the truth value of the filter there, as
long as each of its subqueries has different names in its `FROM`.

## Shape of the proof

`Means` says this of one clause. It follows every way in which clauses are put together: side by
side, in junctions, under negations and in subqueries. `means_conditions` then follows the recursion
of the filter. What it carries along is that the row has a name in sight, and that all names in sight
count as used.
-/

namespace RelationalQuery.Compile

open Sql

/-! ## Conditions side by side -/

theorem areBound_append (e : Engine) (scopes : List (List Heading)) (a b : Clause) :
    Condition.areBound e scopes (a ++ b) =
      (Condition.areBound e scopes a && Condition.areBound e scopes b) := by
  induction a with
  | nil => rfl
  | cons condition a ih =>
    rw [List.cons_append, Condition.areBound, Condition.areBound, ih, Bool.and_assoc]

theorem haveDistinctNames_append (a b : Clause) :
    Condition.haveDistinctNames (a ++ b) =
      (Condition.haveDistinctNames a && Condition.haveDistinctNames b) := by
  induction a with
  | nil => rfl
  | cons condition a ih =>
    rw [List.cons_append, Condition.haveDistinctNames, Condition.haveDistinctNames, ih,
      Bool.and_assoc]

theorem truths_append (e : Engine) (scopes : List Frame) (a b : Clause) :
    Condition.truths e scopes (a ++ b) =
      Condition.truths e scopes a ++ Condition.truths e scopes b := by
  induction a with
  | nil => rfl
  | cons condition a ih =>
    rw [List.cons_append, Condition.truths, Condition.truths, ih, List.cons_append]

/-! ## Comparisons -/

/-- Whether a clause compares one column, and what that comes to for a value of the column. -/
structure Compares (column : Column) (truth : Engine → Value → Truth) (clause : Clause) : Prop where
  isBound (e : Engine) (scopes : List (List Heading)) (h : column.isBound scopes) :
    Condition.areBound e scopes clause
  distinct : Condition.haveDistinctNames clause
  truth (e : Engine) (scopes : List Frame) :
    Truth.all (Condition.truths e scopes clause) = truth e (column.value scopes)

variable {column : Column} {field : String}

/-- A single condition that is bound as its column is compares that column. -/
theorem Compares.single {truth : Engine → Value → Truth} {condition : Condition}
    (isBound : ∀ e scopes, condition.isBound e scopes = column.isBound scopes)
    (distinct : condition.hasDistinctNames = true)
    (h : ∀ e scopes, condition.truth e scopes = truth e (column.value scopes)) :
    Compares column truth [condition] where
  isBound e scopes hcolumn := by
    rw [Condition.areBound, isBound e scopes, hcolumn]
    rfl
  distinct := by
    rw [Condition.haveDistinctNames, distinct]
    rfl
  truth e scopes := by
    rw [Condition.truths, h e scopes]
    exact Truth.and_yes _

/-- The condition of a comparison means what its operator means. -/
theorem compares_compareWith {op : Comparison} {operand : Value} {condition : Condition}
    (h : compareWith column field op operand = .ok condition) :
    Compares column (fun e v => e.operatorTruth v op operand) [condition] := by
  cases op with
  | equals =>
    obtain rfl := Except.ok.inj h
    cases operand with
    | null => exact .single (fun _ _ => rfl) rfl fun _ _ => congrArg Truth.ofBool (Bool.bne_false _)
    | _ => exact .single (fun _ _ => rfl) rfl fun _ _ => rfl
  | not =>
    obtain rfl := Except.ok.inj h
    cases operand with
    | null => exact .single (fun _ _ => rfl) rfl fun _ _ => congrArg Truth.ofBool (Bool.bne_true _)
    | _ => exact .single (fun _ _ => rfl) rfl fun _ _ => rfl
  | isIn | notIn | lt | lte | gt | gte =>
    obtain rfl := Except.ok.inj h
    exact .single (fun _ _ => rfl) rfl fun _ _ => rfl
  | search place insensitive =>
    rw [compareWith, bind_eq_ok_iff] at h
    obtain ⟨text, htext, h⟩ := h
    obtain rfl := Except.ok.inj h
    have hdisplay : text = operand.display := by
      unfold searchText at htext
      split at htext
      · cases htext
      · cases htext
      · cases htext
      · exact (Except.ok.inj htext).symm
    rw [hdisplay]
    exact .single (fun _ _ => rfl) rfl fun _ _ => rfl

/-- Comparisons of one column side by side are its conjunction. -/
theorem Compares.cons {first rest : Engine → Value → Truth} {condition : Condition}
    {clause : Clause} (hfirst : Compares column first [condition])
    (hrest : Compares column rest clause) :
    Compares column (fun e v => (first e v).and (rest e v)) (condition :: clause) where
  isBound e scopes h := by
    have hcondition := hfirst.isBound e scopes h
    rw [Condition.areBound, Condition.areBound, Bool.and_true] at hcondition
    rw [Condition.areBound, hcondition, hrest.isBound e scopes h]
    rfl
  distinct := by
    have hcondition := hfirst.distinct
    rw [Condition.haveDistinctNames, Condition.haveDistinctNames, Bool.and_true] at hcondition
    rw [Condition.haveDistinctNames, hcondition, hrest.distinct]
    rfl
  truth e scopes := by
    have hcondition := hfirst.truth e scopes
    rw [Condition.truths, Condition.truths, Truth.all_cons, Truth.all_nil, Truth.and_yes]
      at hcondition
    rw [Condition.truths, Truth.all_cons, hcondition, hrest.truth e scopes]

/-- Comparisons of one column that are negated together. -/
theorem Compares.negation {truth : Engine → Value → Truth} {clause : Clause}
    (h : Compares column truth clause) :
    Compares column (fun e v => (truth e v).not) [.negation clause] where
  isBound e scopes hcolumn := by
    rw [Condition.areBound, Condition.isBound, h.isBound e scopes hcolumn]
    rfl
  distinct := by
    rw [Condition.haveDistinctNames, Condition.hasDistinctNames, h.distinct]
    rfl
  truth e scopes := by
    rw [Condition.truths, Condition.truth, h.truth e scopes]
    exact Truth.and_yes _

/-- What becomes of one comparison: comparisons under `not` are negated together, everything else
is a single operator with its operand. -/
theorem operator_eq_ok {key : String} {operand : Value} {condition : Condition}
    (h : comparison column field key operand = .ok condition) :
    (∃ nested clause, operand = .object nested ∧ Comparison.ofKey? key = some .not ∧
      eachComparison column field nested = .ok clause ∧ condition = .negation clause) ∨
    ∃ op, (∀ e v, Engine.comparisonTruth e v key operand = e.operatorTruth v op operand) ∧
      compareWith column field op operand = .ok condition := by
  unfold comparison at h
  split at h
  · next nested =>
    split at h
    · cases h
    · next hkey =>
      split at h
      · cases h
      · split at h
        · rw [bind_eq_ok_iff] at h
          obtain ⟨clause, hclause, h⟩ := h
          exact Or.inl ⟨nested, clause, rfl, hkey, hclause, (Except.ok.inj h).symm⟩
        · cases h
    · next op hop hkey =>
      refine Or.inr ⟨op, fun e v => ?_, h⟩
      rw [Engine.comparisonTruth]
      split
      · next hnone => rw [hkey] at hnone; cases hnone
      · next hnot => rw [hkey] at hnot; exact absurd (Option.some.inj hnot) hop
      · next other _ hother => rw [hkey] at hother; rw [Option.some.inj hother]
  · next hobject =>
    split at h
    · cases h
    · next op hkey =>
      refine Or.inr ⟨op, fun e v => ?_, h⟩
      rw [Engine.comparisonTruth, hkey]
      exact hobject

mutual

/-- The conditions of comparisons are all on the one column. -/
theorem comparative_eachComparison : (operators : List (String × Value)) → {clause : Clause} →
    eachComparison column field operators = .ok clause →
    ∀ condition ∈ clause, Comparative column condition
  | [], clause, h => by
    obtain rfl := Except.ok.inj h
    exact List.forall_mem_nil _
  | (key, operand) :: rest, clause, h => by
    rw [eachComparison, bind_eq_ok_iff] at h
    obtain ⟨first, hfirst, h⟩ := h
    rw [bind_eq_ok_iff] at h
    obtain ⟨others, hothers, h⟩ := h
    obtain rfl := Except.ok.inj h
    exact List.forall_mem_cons.mpr
      ⟨comparative_comparison key operand hfirst, comparative_eachComparison rest hothers⟩

theorem comparative_comparison (key : String) (operand : Value) {condition : Condition}
    (h : comparison column field key operand = .ok condition) : Comparative column condition := by
  rcases operator_eq_ok h with ⟨nested, clause, rfl, -, hclause, rfl⟩ | ⟨op, -, hop⟩
  · exact .negation (comparative_eachComparison nested hclause)
  · exact .single (compared_of_compareWith hop)

end

/-- The conditions of a dictionary of comparisons are all on the one column. -/
theorem comparative_comparisons {operators : Dict Value} {clause : Clause}
    (h : comparisons column field operators = .ok clause) :
    ∀ condition ∈ clause, Comparative column condition := by
  rw [comparisons] at h
  split at h
  · exact comparative_eachComparison operators h
  · cases h

/-- A literal is compared once. -/
theorem comparative_equals (column : Column) (value : Value) :
    Comparative column (equals column value) := by
  cases value with
  | null => exact .single (.isNull false)
  | _ => exact .single (.value .eq _)

mutual

/-- The conditions of comparisons mean their conjunction. -/
theorem compares_eachComparison : (operators : List (String × Value)) → {clause : Clause} →
    eachComparison column field operators = .ok clause →
    Compares column (fun e v => .all (e.comparisonTruths v operators)) clause
  | [], clause, h => by
    obtain rfl := Except.ok.inj h
    exact ⟨fun _ _ _ => rfl, rfl, fun _ _ => rfl⟩
  | (key, operand) :: rest, clause, h => by
    rw [eachComparison, bind_eq_ok_iff] at h
    obtain ⟨first, hfirst, h⟩ := h
    rw [bind_eq_ok_iff] at h
    obtain ⟨others, hothers, h⟩ := h
    obtain rfl := Except.ok.inj h
    exact (compares_comparison key operand hfirst).cons (compares_eachComparison rest hothers)

/-- The condition of one comparison means what the comparison does. -/
theorem compares_comparison (key : String) (operand : Value) {condition : Condition}
    (h : comparison column field key operand = .ok condition) :
    Compares column (fun e v => e.comparisonTruth v key operand) [condition] := by
  rcases operator_eq_ok h with ⟨nested, clause, rfl, hkey, hclause, rfl⟩ | ⟨op, htruth, hop⟩
  · have hnested := (compares_eachComparison nested hclause).negation
    simp only [Engine.comparisonTruth, hkey]
    exact hnested
  · simp only [htruth]
    exact compares_compareWith hop

end

/-- The conditions of a dictionary of comparisons mean their conjunction. -/
theorem compares_comparisons {operators : Dict Value} {clause : Clause}
    (h : comparisons column field operators = .ok clause) :
    Compares column (fun e v => .all (e.comparisonTruths v operators)) clause := by
  rw [comparisons] at h
  split at h
  · exact compares_eachComparison operators h
  · cases h

/-! ## Clauses -/

/-- Whether a clause is bound where an occurrence stands, and what it comes to for a row there. -/
structure Means (e : Engine) (s : Schema) (row : Occurrence) (truth : StoredRow → Truth)
    (clause : Clause) : Prop where
  isBound (scope : List Heading) (scopes : List (List Heading)) (h : Stands e s row scope) :
    Condition.areBound e (scope :: scopes) clause = Condition.haveDistinctNames clause
  truth (hdistinct : Condition.haveDistinctNames clause = true) (frame : Frame)
    (frames : List Frame) (cells : StoredRow) (h : StandsAt e s row frame cells) :
    Truth.all (Condition.truths e (frame :: frames) clause) = truth cells

/-- `Means` for several clauses, one by one. -/
structure MeanEach (e : Engine) (s : Schema) (row : Occurrence) (truths : StoredRow → List Truth)
    (clauses : List Clause) : Prop where
  isBound (scope : List Heading) (scopes : List (List Heading)) (h : Stands e s row scope) :
    Condition.clausesAreBound e (scope :: scopes) clauses =
      Condition.clausesHaveDistinctNames clauses
  truths (hdistinct : Condition.clausesHaveDistinctNames clauses = true) (frame : Frame)
    (frames : List Frame) (cells : StoredRow) (h : StandsAt e s row frame cells) :
    Condition.clauseTruths e (frame :: frames) clauses = truths cells

variable {e : Engine} {s : Schema} {row : Occurrence}

/-- An empty clause always holds. -/
theorem Means.nil : Means e s row (fun _ => .yes) [] :=
  ⟨fun _ _ _ => rfl, fun _ _ _ _ _ => rfl⟩

/-- Without clauses there is nothing to say. -/
theorem MeanEach.nil : MeanEach e s row (fun _ => []) [] :=
  ⟨fun _ _ _ => rfl, fun _ _ _ _ _ => rfl⟩

/-- One more clause. -/
theorem Means.cons {first : StoredRow → Truth} {rest : StoredRow → List Truth} {clause : Clause}
    {clauses : List Clause} (hfirst : Means e s row first clause)
    (hrest : MeanEach e s row rest clauses) :
    MeanEach e s row (fun cells => first cells :: rest cells) (clause :: clauses) where
  isBound scope scopes h := by
    rw [Condition.clausesAreBound, Condition.clausesHaveDistinctNames,
      hfirst.isBound scope scopes h, hrest.isBound scope scopes h]
  truths hdistinct frame frames cells h := by
    rw [Condition.clausesHaveDistinctNames, Bool.and_eq_true] at hdistinct
    rw [Condition.clauseTruths, hfirst.truth hdistinct.1 frame frames cells h,
      hrest.truths hdistinct.2 frame frames cells h]

/-- Two clauses side by side are their conjunction. -/
theorem Means.append {first second : StoredRow → Truth} {a b : Clause}
    (ha : Means e s row first a) (hb : Means e s row second b) :
    Means e s row (fun cells => (first cells).and (second cells)) (a ++ b) where
  isBound scope scopes h := by
    rw [areBound_append, haveDistinctNames_append, ha.isBound scope scopes h,
      hb.isBound scope scopes h]
  truth hdistinct frame frames cells h := by
    rw [haveDistinctNames_append, Bool.and_eq_true] at hdistinct
    rw [truths_append, Truth.all_append, ha.truth hdistinct.1 frame frames cells h,
      hb.truth hdistinct.2 frame frames cells h]

/-- A comparison of a column of the row is about the value in that column. -/
theorem Means.of_compares {name : String} {truth : Engine → Value → Truth} {clause : Clause}
    (h : Compares (row.own name) truth clause) (hcolumn : e.HasColumn s row.model name) :
    Means e s row (fun cells => truth e (cells name)) clause where
  isBound scope scopes hstands := by
    rw [Engine.HasColumn, ← hstands.table] at hcolumn
    rw [h.isBound e (scope :: scopes) (isBound_own hstands hcolumn), h.distinct]
  truth _ frame frames cells hstands := by
    rw [Engine.HasColumn, ← hstands.stands.table] at hcolumn
    rw [h.truth e (frame :: frames), value_own hstands hcolumn]

/-- The negation of a clause. -/
theorem Means.negation {truth : StoredRow → Truth} {clause : Clause}
    (h : Means e s row truth clause) :
    Means e s row (fun cells => (truth cells).not) [.negation clause] where
  isBound scope scopes hstands := by
    rw [Condition.areBound, Condition.isBound, h.isBound scope scopes hstands]
    rfl
  truth hdistinct frame frames cells hstands := by
    rw [Condition.haveDistinctNames, Bool.and_eq_true] at hdistinct
    rw [Condition.truths, Condition.truth, h.truth hdistinct.1 frame frames cells hstands]
    exact Truth.and_yes _

/-! ## Connectives -/

theorem areBound_map_negation (scopes : List (List Heading)) (clauses : List Clause) :
    Condition.areBound e scopes (clauses.map .negation) =
      Condition.clausesAreBound e scopes clauses := by
  induction clauses with
  | nil => rfl
  | cons clause clauses ih =>
    rw [List.map_cons, Condition.areBound, Condition.clausesAreBound, ih, Condition.isBound]

theorem haveDistinctNames_map_negation (clauses : List Clause) :
    Condition.haveDistinctNames (clauses.map .negation) =
      Condition.clausesHaveDistinctNames clauses := by
  induction clauses with
  | nil => rfl
  | cons clause clauses ih =>
    rw [List.map_cons, Condition.haveDistinctNames, Condition.clausesHaveDistinctNames, ih,
      Condition.hasDistinctNames]

theorem truths_map_negation (scopes : List Frame) (clauses : List Clause) :
    Condition.truths e scopes (clauses.map .negation) =
      (Condition.clauseTruths e scopes clauses).map Truth.not := by
  induction clauses with
  | nil => rfl
  | cons clause clauses ih =>
    rw [List.map_cons, Condition.truths, Condition.clauseTruths, ih, Condition.truth,
      List.map_cons]

/-- Clauses that are combined mean what the connective says. -/
theorem MeanEach.combined {truths : StoredRow → List Truth} {clauses : List Clause}
    (h : MeanEach e s row truths clauses) (connective : Connective) :
    Means e s row (fun cells => Engine.combinedTruth connective (truths cells))
      (combined connective clauses) := by
  have hjunction (all : Bool) : Means e s row
      (fun cells => if all then .all (truths cells) else .any (truths cells))
      [.junction all clauses] := by
    refine ⟨fun scope scopes hstands => ?_, fun hdistinct frame frames cells hstands => ?_⟩
    · rw [Condition.areBound, Condition.isBound, h.isBound scope scopes hstands]
      rfl
    · rw [Condition.haveDistinctNames, Bool.and_eq_true] at hdistinct
      rw [Condition.truths, Condition.truth, h.truths hdistinct.1 frame frames cells hstands]
      exact Truth.and_yes _
  cases connective with
  | all => exact hjunction true
  | any => exact hjunction false
  | not =>
    refine ⟨fun scope scopes hstands => ?_, fun hdistinct frame frames cells hstands => ?_⟩
    · rw [Compile.combined, areBound_map_negation, haveDistinctNames_map_negation]
      exact h.isBound scope scopes hstands
    · rw [Compile.combined, haveDistinctNames_map_negation] at hdistinct
      rw [Compile.combined, truths_map_negation, h.truths hdistinct frame frames cells hstands]
      rfl

/-! ## Subqueries -/

variable {c : Context} {scope : Scope} {relation : Relation} {entry : Entry}

/-- A tied subquery asks whether the clause inside is true of a related row. -/
theorem means_subquery (htied : Tied c scope relation entry)
    (hseen : scope.row.name ∈ scope.visible) (htie : e.HasTie c.schema scope.row.model relation)
    {nested : StoredRow → Truth} {clause : Clause}
    (h : Means e c.schema entry.row nested clause) (negated : Bool) :
    Means e c.schema scope.row
      (fun cells => .ofBool ((e.relatedRows c.schema scope.row.model relation cells).any
        (fun other => nested other = .yes) != negated))
      [.subquery negated entry.source entry.left entry.right clause] := by
  refine ⟨fun outer scopes hstands => ?_, fun hdistinct frame frames cells hstands => ?_⟩
  · rw [Condition.areBound, Condition.isBound, Condition.haveDistinctNames,
      Condition.hasDistinctNames]
    -- with two tables of one name nothing is claimed about the columns inside
    by_cases hnames : entry.source.names.Nodup
    · rw [htied.isBound_equations hnames hseen hstands htie,
        h.isBound _ _ (htied.stands hnames), Bool.and_true]
      rfl
    · rw [decide_eq_false hnames]
      rfl
  · rw [Condition.haveDistinctNames, Condition.hasDistinctNames, Bool.and_eq_true,
      Bool.and_eq_true] at hdistinct
    obtain ⟨⟨hnames, hclause⟩, -⟩ := hdistinct
    have hany := htied.any_frames (of_decide_eq_true hnames) hseen frames hstands htie
      (fun inner => Truth.all (Condition.truths e (inner :: frame :: frames) clause) = .yes)
      (fun other => nested other = .yes)
      (fun inner other hinner => by rw [h.truth hclause inner _ other hinner])
    rw [Condition.truths, Condition.truth, hany]
    exact Truth.and_yes _

/-- A criterion over related rows means what its quantifier says of them. -/
theorem means_quantified (htied : Tied c scope relation entry)
    (hseen : scope.row.name ∈ scope.visible) (htie : e.HasTie c.schema scope.row.model relation)
    {nested : StoredRow → Truth} {clause : Clause}
    (h : Means e c.schema entry.row nested clause) (quantifier : Quantifier) :
    Means e c.schema scope.row
      (fun cells => Engine.quantifiedTruth quantifier
        ((e.relatedRows c.schema scope.row.model relation cells).map nested))
      [quantified quantifier entry clause] := by
  have hsubquery := means_subquery htied hseen htie h
  cases quantifier with
  | some =>
    have hsome := hsubquery false
    simp only [Bool.bne_false] at hsome
    simp only [Engine.quantifiedTruth, List.any_map]
    exact hsome
  | none =>
    have hnone := hsubquery true
    simp only [Bool.bne_true] at hnone
    simp only [Engine.quantifiedTruth, List.any_map]
    exact hnone
  | every =>
    -- no related row fails: the negation of the clause is true of none
    have hevery := means_subquery htied hseen htie h.negation true
    simp only [Bool.bne_true, Truth.not_eq_yes_iff] at hevery
    simp only [Engine.quantifiedTruth, List.any_map]
    exact hevery

/-! ## Filters -/

mutual

/-- The conditions of a filter mean what the filter means, and no name is forgotten. -/
theorem means_conditions (scope : Scope) : (filter : List (String × Criterion)) →
    {clause : Clause} → {used after : List String} →
    conditions c scope filter used = .ok (clause, after) →
    scope.row.name ∈ scope.visible → scope.visible ⊆ used →
    e.Provides c.schema scope.row.model filter →
    Means e c.schema scope.row (fun cells => e.filterTruth c.schema scope.row.model cells filter)
      clause ∧ used ⊆ after
  | [], clause, used, after, h, _, _, _ => by
    obtain ⟨rfl, rfl⟩ := conditions_nil_eq_ok h
    exact ⟨.nil, fun _ h => h⟩
  | (key, criterion) :: rest, clause, used, after, h, hseen, hused, hprovides => by
    obtain ⟨here, others, between, hhere, hothers, rfl⟩ := conditions_cons_eq_ok h
    rw [Engine.Provides] at hprovides
    obtain ⟨hmeans, hkept⟩ := means_criterionConditions scope key criterion hhere hseen hused
      hprovides.1
    obtain ⟨hrest, hlast⟩ := means_conditions scope rest hothers hseen
      (fun _ h => hkept (hused h)) hprovides.2
    simp only [Engine.filterTruth]
    exact ⟨hmeans.append hrest, fun _ h => hlast (hkept h)⟩

/-- The conditions of one entry of a filter mean what the entry means. -/
theorem means_criterionConditions (scope : Scope) (key : String) : (criterion : Criterion) →
    {clause : Clause} → {used after : List String} →
    criterionConditions c scope key criterion used = .ok (clause, after) →
    scope.row.name ∈ scope.visible → scope.visible ⊆ used →
    e.ProvidesCriterion c.schema scope.row.model key criterion →
    Means e c.schema scope.row
      (fun cells => e.criterionTruth c.schema scope.row.model cells key criterion) clause ∧
      used ⊆ after
  | .literal value, clause, used, after, h, _, _, hprovides => by
    obtain ⟨-, rfl, rfl⟩ := literal_eq_ok h
    simp only [Engine.criterionTruth]
    rw [Engine.ProvidesCriterion] at hprovides
    have hequals : compareWith (scope.row.field c key) key .equals value =
      .ok (equals (scope.row.field c key) value) := rfl
    exact ⟨.of_compares (compares_compareWith hequals) hprovides, fun _ h => h⟩
  | .comparison operators, clause, used, after, h, _, _, hprovides => by
    obtain ⟨-, hcomparisons, rfl⟩ := comparison_eq_ok h
    simp only [Engine.criterionTruth]
    rw [Engine.ProvidesCriterion] at hprovides
    exact ⟨.of_compares (compares_comparisons hcomparisons) hprovides, fun _ h => h⟩
  | .logical connective operands, clause, used, after, h, hseen, hused, hprovides => by
    obtain ⟨-, parts, hparts, rfl⟩ := logical_eq_ok h
    rw [Engine.ProvidesCriterion] at hprovides
    obtain ⟨heach, hkept⟩ := meanEach_clauses scope operands hparts hseen hused hprovides
    simp only [Engine.criterionTruth]
    exact ⟨heach.combined connective, hkept⟩
  | .related quantifier nested, clause, used, after, h, hseen, hused, hprovides => by
    obtain ⟨relation, entry, between, inner, hquantifiable, -, henter, hinner, rfl⟩ :=
      related_eq_ok h
    obtain ⟨htied, hname, hkept⟩ := tied_of_enter hused henter
    have hfound := relation?_of_quantifiable hquantifiable
    rw [Engine.ProvidesCriterion] at hprovides
    obtain ⟨htie, hnested⟩ := hprovides relation hfound
    rw [← htied.model_row] at hnested
    -- inside of the subquery the related row is in sight too, by a name that counts as used
    have hvisible : entry.row.name :: scope.visible ⊆ between :=
      List.cons_subset.mpr ⟨hname, fun _ h => hkept (hused h)⟩
    obtain ⟨hmeans, hlast⟩ := means_conditions ⟨entry.row, entry.row.name :: scope.visible, true⟩
      nested hinner List.mem_cons_self hvisible hnested
    have hquantified := means_quantified htied hseen htie hmeans quantifier
    simp only [Engine.criterionTruth, hfound, ← htied.model_row]
    exact ⟨hquantified, fun _ h => hlast (hkept h)⟩

/-- The clauses of filters mean what the filters mean, one by one. -/
theorem meanEach_clauses (scope : Scope) : (filters : List (List (String × Criterion))) →
    {parts : List Clause} → {used after : List String} →
    clauses c scope filters used = .ok (parts, after) →
    scope.row.name ∈ scope.visible → scope.visible ⊆ used →
    e.ProvidesAll c.schema scope.row.model filters →
    MeanEach e c.schema scope.row
      (fun cells => e.filterTruths c.schema scope.row.model cells filters) parts ∧ used ⊆ after
  | [], parts, used, after, h, _, _, _ => by
    obtain ⟨rfl, rfl⟩ := clauses_nil_eq_ok h
    exact ⟨.nil, fun _ h => h⟩
  | filter :: rest, parts, used, after, h, hseen, hused, hprovides => by
    obtain ⟨clause, others, between, hclause, hothers, rfl⟩ := clauses_cons_eq_ok h
    rw [Engine.ProvidesAll] at hprovides
    obtain ⟨hmeans, hkept⟩ := means_conditions scope filter hclause hseen hused hprovides.1
    obtain ⟨hrest, hlast⟩ := meanEach_clauses scope rest hothers hseen
      (fun _ h => hkept (hused h)) hprovides.2
    simp only [Engine.filterTruths]
    exact ⟨hmeans.cons hrest, fun _ h => hlast (hkept h)⟩

end

end RelationalQuery.Compile
