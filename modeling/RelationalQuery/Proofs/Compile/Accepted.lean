import RelationalQuery.Proofs.Compile.Joins
import RelationalQuery.Proofs.Query.WellFormed

/-!
# Accepted filters

Where models need not be registered, a filter has conditions if and only if it is well-formed, and
one that is not fails with the error of the first departure. `ends_conditions` and
`fails_conditions` say so for every scope, whatever names are in sight or have been drawn before.

## Shape of the proof

Planning draws names on the way, but they decide nothing here. `Naming.Ends` and `Naming.Fails`
speak of all states at once: a sequence ends if its steps do, and fails with the first step that
fails.
-/

namespace RelationalQuery.Compile

open Sql

/-! ## Planning that ends or fails -/

namespace Naming

variable {α β : Type}

/-- Planning ends from every state, with a result that has a property. -/
def Ends (x : Naming α) (p : α → Prop) : Prop := ∀ used, ∃ a after, x used = .ok (a, after) ∧ p a

/-- Planning fails from every state with an error. -/
def Fails (x : Naming α) (error : CompileError) : Prop := ∀ used, x used = .error error

variable {x : Naming α} {f : α → Naming β} {p : α → Prop} {q : β → Prop} {error : CompileError}

theorem Ends.pure {a : α} (h : p a) : Ends (Pure.pure a) p := fun used => ⟨a, used, rfl, h⟩

theorem Ends.bind (hx : Ends x p) (hf : ∀ a, p a → Ends (f a) q) : Ends (x >>= f) q := by
  intro used
  obtain ⟨a, between, ha, hp⟩ := hx used
  obtain ⟨b, after, hb, hq⟩ := hf a hp between
  exact ⟨b, after, bind_run_eq_ok_iff.mpr ⟨a, between, ha, hb⟩, hq⟩

theorem Ends.bind_fails (hx : Ends x p) (hf : ∀ a, p a → Fails (f a) error) :
    Fails (x >>= f) error := by
  intro used
  obtain ⟨a, between, ha, hp⟩ := hx used
  exact bind_eq_error_iff.mpr (.inr ⟨(a, between), ha, hf a hp between⟩)

theorem Fails.bind (hx : Fails x error) : Fails (x >>= f) error :=
  fun used => bind_eq_error_iff.mpr (.inl (hx used))

theorem Ends.map {g : α → β} (hx : Ends x p) : Ends (g <$> x) fun _ => True := by
  rw [← bind_pure_comp]
  exact Ends.bind hx fun _ _ => Ends.pure trivial

theorem Fails.map {g : α → β} (hx : Fails x error) : Fails (g <$> x) error := by
  rw [← bind_pure_comp]
  exact Fails.bind hx

/-- A check that passes is passed over. -/
theorem Ends.after {check : Except CompileError α} {a : α} (h : check = .ok a)
    (hf : Ends (f a) q) : Ends (liftM check >>= f) q := by
  intro used
  subst h
  exact hf used

theorem Fails.after {check : Except CompileError α} {a : α} (h : check = .ok a)
    (hf : Fails (f a) error) : Fails (liftM check >>= f) error := by
  intro used
  subst h
  exact hf used

theorem Ends.lift {result : Except CompileError α} {a : α} (h : result = .ok a) (hp : p a) :
    Ends (liftM result) p :=
  fun used => ⟨a, used, lift_run_eq_ok_iff.mpr ⟨h, rfl⟩, hp⟩

theorem Fails.lift {result : Except CompileError α} (h : result = .error error) :
    Fails (liftM result : Naming α) error := by
  intro used
  subst h
  rfl

/-- A sequence over a list ends if each of its steps does. -/
theorem Ends.mapM {as : List α} (h : ∀ a ∈ as, Ends (f a) fun _ => True) :
    Ends (as.mapM f) fun _ => True := by
  induction as with
  | nil => exact Ends.pure trivial
  | cons a as ih =>
    have hrest := ih fun other hother => h other (List.mem_cons_of_mem a hother)
    rw [List.mapM_cons]
    refine Ends.bind (h a List.mem_cons_self) fun first _ => ?_
    exact Ends.bind hrest fun rest _ => Ends.pure trivial

/-- A sequence over a list fails with the first of its steps that fails. -/
theorem Fails.mapM {before after : List α} {a : α}
    (hbefore : ∀ b ∈ before, Ends (f b) fun _ => True) (h : Fails (f a) error) :
    Fails ((before ++ a :: after).mapM f) error := by
  induction before with
  | nil =>
    rw [List.nil_append, List.mapM_cons]
    exact Fails.bind h
  | cons first rest ih =>
    have hrest := ih fun other hother => hbefore other (List.mem_cons_of_mem first hother)
    rw [List.cons_append, List.mapM_cons]
    exact Ends.bind_fails (hbefore first List.mem_cons_self) fun _ _ => Fails.bind hrest

end Naming

open Naming (Ends Fails)

/-! ## Comparisons -/

variable {column : Column} {field : String} {operators : Dict Value} {error : CompileError}

theorem unknownKeys_eq (operators : Dict Value) :
    unknownKeys operators = operators.keys.filter fun key => ¬ IsComparisonKey key := by
  refine List.filter_congr fun key _ => ?_
  rw [Bool.eq_iff_iff, Option.isNone_iff_eq_none, Comparison.ofKey?_eq_none_iff, decide_eq_true_iff]

/-- Comparisons with known keys are compiled one by one. -/
theorem comparisons_of_known (h : ∀ entry ∈ operators, IsComparisonKey entry.1) :
    comparisons column field operators = eachComparison column field operators := by
  have hnone : unknownKeys operators = [] := by
    rw [unknownKeys_eq, List.filter_eq_nil_iff]
    intro key hkey
    obtain ⟨entry, hentry, rfl⟩ := List.mem_map.mp hkey
    simpa using h entry hentry
  rw [comparisons, hnone]

/-- Comparisons with an unknown key fail with all that are unknown. -/
theorem comparisons_of_unknown (h : ∃ entry ∈ operators, ¬ IsComparisonKey entry.1) :
    comparisons column field operators = .error
      (.unknownOperators field (operators.keys.filter fun key => ¬ IsComparisonKey key)) := by
  have hsome : unknownKeys operators ≠ [] := by
    obtain ⟨entry, hentry, hunknown⟩ := h
    rw [unknownKeys_eq, Ne, List.filter_eq_nil_iff]
    intro hnone
    exact hnone entry.1 (List.mem_map_of_mem hentry) (by simpa using hunknown)
  rw [← unknownKeys_eq, comparisons]
  cases hunknown : unknownKeys operators with
  | nil => exact absurd hunknown hsome
  | cons key rest => rfl

/-- Operands under the key of a comparison are compared with, unless they are negated together. -/
theorem comparison_key {op : Comparison} {operand : Value}
    (h : op = .not → operand.object? = none) :
    comparison column field op.key operand = compareWith column field op operand := by
  cases operand with
  | object nested =>
    rw [comparison, Comparison.ofKey?_key]
    cases op with
    | not => cases h rfl
    | _ => rfl
  | _ => simp [comparison, Comparison.ofKey?_key]

/-- Comparisons under a negation are compiled like those of the field itself. -/
theorem comparison_negated {nested : Dict Value} (h : nested ≠ []) :
    comparison column field Comparison.not.key (.object nested) =
      Condition.negation <$> comparisons column field nested := by
  rw [comparison, Comparison.ofKey?_key, comparisons]
  simp only [List.isEmpty_iff, h]
  cases unknownKeys nested <;> rfl

/-- A search looks for the text of its operand. -/
theorem searchText_of_isSearchable {op : Comparison} {operand : Value} (h : operand.IsSearchable) :
    searchText op field operand = .ok operand.display := by
  cases operand <;> first | rfl | cases h

theorem searchText_of_not_isSearchable {op : Comparison} {operand : Value}
    (h : ¬ operand.IsSearchable) :
    searchText op field operand = .error (.searchWithoutText op field operand.kind) := by
  cases operand <;> first | rfl | exact absurd trivial h

theorem eachComparison_eq_mapM (column : Column) (field : String) (operators : Dict Value) :
    eachComparison column field operators =
      operators.mapM fun entry => comparison column field entry.1 entry.2 := by
  induction operators with
  | nil =>
    rw [eachComparison]
    rfl
  | cons entry rest ih => rw [eachComparison, ih, List.mapM_cons]

/-- An operand that fits is compared with. -/
theorem exists_comparison_eq_ok {key : String} {operand : Value}
    (h : Comparison.Fits key operand) :
    ∃ condition, comparison column field key operand = .ok condition := by
  induction h with
  | search searchable =>
    rw [comparison_key (by simp), compareWith, searchText_of_isSearchable searchable]
    exact ⟨_, rfl⟩
  | @negated nested some_entry fit ih =>
    have hknown : ∀ entry ∈ nested, IsComparisonKey entry.1 :=
      fun entry hentry => (fit entry hentry).isComparisonKey
    obtain ⟨clause, hclause⟩ := exists_mapM_eq_ok ih
    rw [comparison_negated some_entry, comparisons_of_known hknown, eachComparison_eq_mapM, hclause]
    exact ⟨_, rfl⟩
  | @value op operand no_search single =>
    rw [comparison_key single]
    cases op with
    | search place insensitive => exact absurd rfl (no_search place insensitive)
    | _ => exact ⟨_, rfl⟩

/-- Comparisons that fit their operands have conditions. -/
theorem exists_comparisons_eq_ok (h : ∀ entry ∈ operators, Comparison.Fits entry.1 entry.2) :
    ∃ clause, comparisons column field operators = .ok clause := by
  rw [comparisons_of_known fun entry hentry => (h entry hentry).isComparisonKey,
    eachComparison_eq_mapM]
  exact exists_mapM_eq_ok fun entry hentry => exists_comparison_eq_ok (h entry hentry)

/-- Comparisons fail where they reach one that fails. -/
theorem comparisons_eq_error_of_reaches {key : String} {operand : Value}
    (hreached : Comparison.Reaches operators key operand)
    (h : comparison column field key operand = .error error) :
    comparisons column field operators = .error error := by
  obtain ⟨hknown, before, after, rfl, hbefore⟩ := hreached
  rw [comparisons_of_known hknown, eachComparison_eq_mapM]
  exact mapM_eq_error (fun entry hentry => exists_comparison_eq_ok (hbefore entry hentry)) h

/-- Comparisons fail with the error of their first departure. -/
theorem comparisons_eq_error (h : Comparison.Breaks field operators error) :
    comparisons column field operators = .error error := by
  induction h with
  | unknown some_unknown => exact comparisons_of_unknown some_unknown
  | search reached no_text =>
    apply comparisons_eq_error_of_reaches reached
    rw [comparison_key (by simp), compareWith, searchText_of_not_isSearchable no_text]
    rfl
  | emptyNot reached =>
    apply comparisons_eq_error_of_reaches reached
    simp [comparison, Comparison.ofKey?_key]
  | negated reached some_entry below ih =>
    apply comparisons_eq_error_of_reaches reached
    rw [comparison_negated some_entry, ih]
    rfl

/-! ## Subqueries -/

variable {c : Context} {scope : Scope} {key : String}

/-- A fresh name can always be drawn. -/
theorem ends_allocate (base : String) : Ends (allocate base) fun _ => True :=
  fun _ => ⟨_, _, rfl, trivial⟩

/-- A relation with all that joins it is entered, at rows of its target. -/
theorem ends_enter {relation : Relation} (h : relation.IsJoined) :
    Ends (enter c scope key relation) fun entry => entry.row.model = relation.target := by
  cases hlink : c.schema.link scope.row.model relation with
  | junction table ownId ownColumn targetColumn targetId =>
    obtain ⟨hmany, htable⟩ := joinTable_of_junction hlink
    cases table with
    | none => exact absurd htable (h hmany)
    | some table =>
      simp only [enter, hlink]
      refine Ends.bind (ends_allocate _) fun aliasName _ => ?_
      by_cases hseen : scope.visible.contains table
      · rw [if_pos hseen]
        exact Ends.bind (ends_allocate _) fun joinName _ => Ends.pure rfl
      · rw [if_neg hseen]
        exact Ends.pure rfl
  | direct own target =>
    simp only [enter, hlink]
    by_cases hseen : scope.nested || scope.visible.contains (c.schema.tableOf relation.target)
    · rw [if_pos hseen]
      exact Ends.bind (ends_allocate _) fun aliasName _ => Ends.pure rfl
    · rw [if_neg hseen]
      exact fun used => ⟨_, _, rfl, rfl⟩

/-- A relation many to many without a join table cannot be entered. -/
theorem fails_enter {relation : Relation} (h : ¬ relation.IsJoined) :
    Fails (enter c scope key relation) (.noJoinTable key (some scope.row.model)) := by
  intro used
  obtain ⟨hmany, hnone⟩ : relation.isManyToMany = true ∧ relation.joinTable = none := by
    simpa [Relation.IsJoined] using h
  cases hlink : c.schema.link scope.row.model relation with
  | junction table ownId ownColumn targetColumn targetId =>
    obtain ⟨-, htable⟩ := joinTable_of_junction hlink
    obtain rfl : none = table := hnone.symm.trans htable
    simp only [enter, hlink]
    rfl
  | direct own target => simp [isManyToMany_of_direct hlink] at hmany

/-! ## Filters -/

/-- Where models need not be registered, every model may be queried. -/
theorem checkModel_of_lenient (h : c.strict = false) (model : String) :
    c.checkModel model = .ok () := by
  simp [Context.checkModel, Context.accepts, h]

theorem comparable_eq_ok (h : c.schema.IsValueKey scope.row.model key) :
    comparable c scope key = .ok () := by
  rw [comparable, Connective.ofKey?_eq_none_iff.mpr h.1, h.2]
  rfl

theorem quantifiable_eq_ok {relation : Relation}
    (h : c.schema.IsRelationKey scope.row.model key relation) :
    quantifiable c scope key = .ok relation := by
  rw [quantifiable, Connective.ofKey?_eq_none_iff.mpr h.1, h.2]

theorem not_isNone_ofKey? (h : IsConnectiveKey key) : ¬ (Connective.ofKey? key).isNone := by
  rw [Option.isNone_iff_eq_none, Connective.ofKey?_eq_none_iff]
  exact not_not_intro h

theorem conditions_eq_mapM (c : Context) (scope : Scope) (filter : Filter) :
    conditions c scope filter =
      List.flatten <$> filter.mapM fun entry => criterionConditions c scope entry.1 entry.2 := by
  induction filter with
  | nil =>
    rw [conditions]
    rfl
  | cons entry rest ih =>
    rw [conditions, ih]
    simp only [List.mapM_cons, map_bind, bind_pure_comp, Functor.map_map, List.flatten_cons]

theorem clauses_eq_mapM (c : Context) (scope : Scope) (filters : List Filter) :
    clauses c scope filters = filters.mapM (conditions c scope) := by
  induction filters with
  | nil =>
    rw [clauses]
    rfl
  | cons filter rest ih => rw [clauses, ih, List.mapM_cons]

/-- A filter has conditions if its criteria do. -/
theorem ends_conditions_of_forall {filter : Filter}
    (h : ∀ entry ∈ filter, Ends (criterionConditions c scope entry.1 entry.2) fun _ => True) :
    Ends (conditions c scope filter) fun _ => True := by
  rw [conditions_eq_mapM]
  exact (Ends.mapM h).map

/-- A criterion that makes sense has conditions. -/
theorem ends_criterionConditions (hlenient : c.strict = false) {model : String}
    {criterion : Criterion} (h : Criterion.IsWellFormed c.schema model key criterion)
    (hmodel : scope.row.model = model) :
    Ends (criterionConditions c scope key criterion) fun _ => True := by
  induction h generalizing scope with
  | literal field =>
    subst hmodel
    rw [criterionConditions]
    exact Ends.after (comparable_eq_ok field) (Ends.pure trivial)
  | comparison field fit =>
    subst hmodel
    obtain ⟨clause, hclause⟩ := exists_comparisons_eq_ok fit
    rw [criterionConditions]
    exact Ends.after (comparable_eq_ok field) (Ends.lift hclause trivial)
  | logical combines below ih =>
    rw [criterionConditions]
    dsimp only
    rw [if_neg (not_isNone_ofKey? combines)]
    rw [clauses_eq_mapM]
    refine Ends.bind (Ends.mapM fun operand hoperand => ?_) fun _ _ => Ends.pure trivial
    exact ends_conditions_of_forall fun entry hentry => ih operand hoperand entry hentry hmodel
  | related leads joined below ih =>
    subst hmodel
    rw [criterionConditions]
    apply Ends.after (quantifiable_eq_ok leads)
    apply Ends.after (checkModel_of_lenient hlenient _)
    refine Ends.bind (ends_enter joined) fun entry hentry => ?_
    refine Ends.bind (ends_conditions_of_forall fun criterion hcriterion => ?_) fun _ _ =>
      Ends.pure trivial
    exact ih criterion hcriterion hentry

/-- A value or comparisons fail where the field must not be compared. -/
theorem fails_of_comparable {criterion : Criterion} (hlogical : ¬ criterion.isLogical)
    (hrelated : ¬ criterion.isRelated) (h : comparable c scope key = .error error) :
    Fails (criterionConditions c scope key criterion) error := by
  cases criterion with
  | literal value =>
    rw [criterionConditions]
    exact Fails.bind (.lift h)
  | comparison operators =>
    rw [criterionConditions]
    exact Fails.bind (.lift h)
  | logical connective operands => exact absurd rfl hlogical
  | related quantifier nested => exact absurd rfl hrelated

/-- A quantifier fails where it does not stand under a relation. -/
theorem fails_of_quantifiable {criterion : Criterion} (hrelated : criterion.isRelated)
    (h : quantifiable c scope key = .error error) :
    Fails (criterionConditions c scope key criterion) error := by
  cases criterion with
  | related quantifier nested =>
    rw [criterionConditions]
    exact Fails.bind (.lift h)
  | _ => cases hrelated

/-- Filters fail where they do not stand under a connective. -/
theorem fails_of_not_isConnectiveKey {criterion : Criterion} (hlogical : criterion.isLogical)
    (h : ¬ IsConnectiveKey key) :
    Fails (criterionConditions c scope key criterion)
      (.logicalUnderField key scope.row.model) := by
  cases criterion with
  | logical connective operands =>
    have hkey : (Connective.ofKey? key).isNone := by
      rw [Connective.ofKey?_eq_none_iff.mpr h]
      rfl
    rw [criterionConditions]
    dsimp only
    rw [if_pos hkey]
    exact fun used => rfl
  | _ => cases hlogical

/-- A filter that makes sense has conditions. -/
theorem ends_conditions (hlenient : c.strict = false) {filter : Filter}
    (h : filter.IsWellFormed c.schema scope.row.model) :
    Ends (conditions c scope filter) fun _ => True := by
  refine ends_conditions_of_forall fun entry hentry => ?_
  exact ends_criterionConditions hlenient (h entry hentry) rfl

/-- A filter fails where it reaches a criterion that fails. -/
theorem fails_conditions_of_reaches (hlenient : c.strict = false) {filter : Filter}
    {criterion : Criterion} (hreached : filter.Reaches c.schema scope.row.model key criterion)
    (h : Fails (criterionConditions c scope key criterion) error) :
    Fails (conditions c scope filter) error := by
  obtain ⟨before, after, rfl, hbefore⟩ := hreached
  rw [conditions_eq_mapM]
  refine Fails.map (Fails.mapM (a := (key, criterion)) (fun entry hentry => ?_) h)
  exact ends_criterionConditions hlenient (hbefore entry hentry) rfl

/-- A filter fails with the error of its first departure. -/
theorem fails_conditions (hlenient : c.strict = false) {model : String} {filter : Filter}
    (h : filter.Breaks c.schema model error) (hmodel : scope.row.model = model) :
    Fails (conditions c scope filter) error := by
  induction h generalizing scope with
  | @connectiveWithoutFilters model filter connective criterion reached no_filters =>
    subst hmodel
    apply fails_conditions_of_reaches hlenient reached
    by_cases hrelated : criterion.isRelated
    · apply fails_of_quantifiable hrelated
      rw [quantifiable, Connective.ofKey?_key]
    · apply fails_of_comparable no_filters hrelated
      rw [comparable, Connective.ofKey?_key]
  | logicalUnderField reached field filters =>
    subst hmodel
    exact fails_conditions_of_reaches hlenient reached (fails_of_not_isConnectiveKey filters field)
  | relationWithoutQuantifier reached leads no_filters no_quantifier =>
    subst hmodel
    apply fails_conditions_of_reaches hlenient reached
    apply fails_of_comparable no_filters no_quantifier
    rw [comparable, Connective.ofKey?_eq_none_iff.mpr leads.1, leads.2]
    rfl
  | quantifierWithoutRelation reached field quantifier =>
    subst hmodel
    apply fails_conditions_of_reaches hlenient reached
    apply fails_of_quantifiable quantifier
    rw [quantifiable, Connective.ofKey?_eq_none_iff.mpr field.1, field.2]
  | noJoinTable reached leads unjoined =>
    subst hmodel
    apply fails_conditions_of_reaches hlenient reached
    rw [criterionConditions]
    apply Fails.after (quantifiable_eq_ok leads)
    apply Fails.after (checkModel_of_lenient hlenient _)
    exact Fails.bind (fails_enter unjoined)
  | comparison reached field below =>
    subst hmodel
    apply fails_conditions_of_reaches hlenient reached
    rw [criterionConditions]
    apply Fails.after (comparable_eq_ok field)
    exact Fails.lift (comparisons_eq_error below)
  | logical reached combines sound below ih =>
    subst hmodel
    apply fails_conditions_of_reaches hlenient reached
    rw [criterionConditions]
    dsimp only
    rw [if_neg (not_isNone_ofKey? combines), clauses_eq_mapM]
    apply Fails.bind
    exact Fails.mapM (fun other hother => ends_conditions hlenient (sound other hother)) (ih rfl)
  | related reached leads joined below ih =>
    subst hmodel
    apply fails_conditions_of_reaches hlenient reached
    rw [criterionConditions]
    apply Fails.after (quantifiable_eq_ok leads)
    apply Fails.after (checkModel_of_lenient hlenient _)
    refine Ends.bind_fails (ends_enter joined) fun entry hentry => ?_
    exact Fails.bind (ih hentry)

/-! ## Clauses -/

variable {row : Occurrence} {visible : List String} {filter : Filter}

theorem exists_clauseOf_eq_ok (hlenient : c.strict = false)
    (h : filter.IsWellFormed c.schema row.model) :
    ∃ clause, clauseOf c row visible filter = .ok clause := by
  have hends : Ends (conditions c ⟨row, visible, false⟩ filter) fun _ => True :=
    ends_conditions hlenient h
  obtain ⟨clause, after, hclause, -⟩ := hends visible
  exact ⟨clause, map_eq_ok_iff.mpr ⟨(clause, after), hclause, rfl⟩⟩

theorem clauseOf_eq_error (hlenient : c.strict = false)
    (h : filter.Breaks c.schema row.model error) :
    clauseOf c row visible filter = .error error := by
  have hfails : Fails (conditions c ⟨row, visible, false⟩ filter) error :=
    fails_conditions hlenient h rfl
  rw [clauseOf, StateT.run', hfails]
  rfl

/-- A filter has a clause if and only if it makes sense. -/
theorem exists_clauseOf_eq_ok_iff (hlenient : c.strict = false) :
    (∃ clause, clauseOf c row visible filter = .ok clause) ↔
      filter.IsWellFormed c.schema row.model := by
  refine ⟨?_, exists_clauseOf_eq_ok hlenient⟩
  rintro ⟨clause, hclause⟩
  by_contra hnot
  obtain ⟨error, hbreaks⟩ := Filter.breaks_of_not_isWellFormed row.model filter hnot
  rw [clauseOf_eq_error hlenient hbreaks] at hclause
  cases hclause

/-- A filter fails with an error if and only if it is the error of its first departure. -/
theorem clauseOf_eq_error_iff (hlenient : c.strict = false) :
    clauseOf c row visible filter = .error error ↔ filter.Breaks c.schema row.model error := by
  refine ⟨fun h => ?_, clauseOf_eq_error hlenient⟩
  have hnot : ¬ filter.IsWellFormed c.schema row.model := by
    intro hsound
    obtain ⟨clause, hclause⟩ : ∃ clause, clauseOf c row visible filter = .ok clause :=
      exists_clauseOf_eq_ok hlenient hsound
    rw [h] at hclause
    cases hclause
  obtain ⟨found, hbreaks⟩ := Filter.breaks_of_not_isWellFormed row.model filter hnot
  rw [clauseOf_eq_error hlenient hbreaks] at h
  exact Except.error.inj h ▸ hbreaks

end RelationalQuery.Compile
