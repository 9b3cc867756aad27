import RelationalQuery.Compiler
import RelationalQuery.Proofs.Compile.Plan

/-!
# Strict validation

A strict compiler refuses some models and does nothing else that a lenient one does not do. Every
outcome of it is that of the lenient compiler, or refuses a model that the schema does not know,
although its name is that of a model.

## Shape of the proof

Two runs of a planner, a strict one and a lenient one, take the same steps until a model is checked.
There the strict run either goes on, or ends for the reason that `Refuses` describes. `Narrows` is
kept by sequences, so each planner needs one lemma that follows its steps; whatever a planner does
with the schema alone is the same in both runs.
-/

namespace RelationalQuery

/-! ## Known models -/

/-- Whether a name is written like that of a model: a capital first, some lower-case letter and no
underscore. Only ASCII letters count. -/
structure IsModelName (name : String) : Prop where
  capital : ∃ first rest, name.toList = first :: rest ∧ 'A' ≤ first ∧ first ≤ 'Z'
  lower : ∃ letter ∈ name.toList, 'a' ≤ letter ∧ letter ≤ 'z'
  solid : '_' ∉ name.toList

/-- Whether a name is that of a registered model, or of the table of one. -/
def Schema.Knows (s : Schema) (name : String) : Prop :=
  s.isRegistered name ∨ ∃ entry ∈ s.models, entry.2.table = name

/-- Whether an error refuses a model that the schema does not know, by the name of that model. -/
def Schema.Refuses (s : Schema) (error : CompileError) : Prop :=
  ∃ model, error = .unregisteredModel model (Text.snake model) s.modelNames ∧ ¬ s.Knows model ∧
    IsModelName model

/-- Whether a strict outcome is the lenient one, unless it refuses a model. -/
def Schema.Narrows {α : Type} (s : Schema) (strict lenient : Except CompileError α) : Prop :=
  strict = lenient ∨ ∃ error, strict = .error error ∧ s.Refuses error

namespace Compile

/-- What is looked for in a name is what models are named by. -/
theorem looksLikeModel_iff {name : String} : looksLikeModel name = true ↔ IsModelName name := by
  have hupper (c : Char) : c.isUpper = true ↔ 'A' ≤ c ∧ c ≤ 'Z' := decide_eq_true_iff
  have hlower (c : Char) : c.isLower = true ↔ 'a' ≤ c ∧ c ≤ 'z' := by
    show (decide ('a' ≤ c) && decide (c ≤ 'z')) = true ↔ _
    rw [Bool.and_eq_true, decide_eq_true_iff, decide_eq_true_iff]
  have hhead : name.toList.head?.any (·.isUpper) = true ↔
      ∃ first rest, name.toList = first :: rest ∧ 'A' ≤ first ∧ first ≤ 'Z' := by
    cases name.toList with
    | nil => simp
    | cons first rest => simp [hupper]
  rw [looksLikeModel, Bool.and_eq_true, Bool.and_eq_true, hhead, List.any_eq_true]
  simp only [hlower, Bool.not_eq_true', List.contains_eq_mem, decide_eq_false_iff_not]
  constructor
  · rintro ⟨⟨hcapital, hletter⟩, hsolid⟩
    exact ⟨hcapital, hletter, hsolid⟩
  · rintro ⟨hcapital, hletter, hsolid⟩
    exact ⟨⟨hcapital, hletter⟩, hsolid⟩

/-- A model is found by its table, or registered by its name, if and only if it is known. -/
theorem knows_iff {s : Schema} {name : String} :
    s.Knows name ↔ (s.isRegistered name || (s.findByTable? name).isSome) = true := by
  have htable : ((s.models.map Prod.snd).find? (·.table == name)).isSome = true ↔
      ∃ entry ∈ s.models, entry.2.table = name := by
    simp
  rw [Schema.Knows, ← htable, Schema.findByTable?, Bool.or_eq_true, Schema.isRegistered]
  -- a registered model of the name is looked for where no table has it
  cases (s.models.map Prod.snd).find? (·.table == name) <;> cases s.model? name <;> simp

variable {c : Context} {model : String}

/-- With strict validation a model is accepted if it is known, or has no name of a model. -/
theorem checkModel_eq_ok_iff (h : c.strict = true) :
    c.checkModel model = .ok () ↔ c.schema.Knows model ∨ ¬ IsModelName model := by
  rw [Context.checkModel, knows_iff, ← looksLikeModel_iff, Context.accepts, h]
  cases looksLikeModel model <;> cases c.schema.isRegistered model <;>
    cases (c.schema.findByTable? model).isSome <;> simp

/-- Strict validation refuses what it does not accept by an error of its own. -/
theorem refuses_of_checkModel {error : CompileError} (h : c.checkModel model = .error error) :
    c.schema.Refuses error := by
  have hchecked := h
  rw [Context.checkModel] at h
  split at h
  · cases h
  · next hrefused =>
    obtain rfl := Except.error.inj h
    have hstrict : c.strict = true := by
      cases hlenient : c.strict with
      | true => rfl
      | false => exact absurd (by simp [Context.accepts, hlenient]) hrefused
    have hnot : ¬ (c.schema.Knows model ∨ ¬ IsModelName model) := by
      rw [← checkModel_eq_ok_iff hstrict, hchecked]
      simp
    rw [not_or, Classical.not_not] at hnot
    exact ⟨model, rfl, hnot⟩

end Compile

/-! ## Two runs -/

namespace Schema

variable {s : Schema} {α β : Type}

theorem Narrows.refl (x : Except CompileError α) : s.Narrows x x := Or.inl rfl

/-- Two runs take the same steps one after the other, unless the strict one ends. -/
theorem Narrows.bind {x y : Except CompileError α} {f g : α → Except CompileError β}
    (h : s.Narrows x y) (hnext : ∀ a, s.Narrows (f a) (g a)) : s.Narrows (x >>= f) (y >>= g) := by
  rcases h with rfl | ⟨error, rfl, hrefuses⟩
  · cases x with
    | error error => exact .refl _
    | ok a => exact hnext a
  · exact Or.inr ⟨error, rfl, hrefuses⟩

/-- Outcomes are made to something else in the same way. -/
theorem Narrows.map {x y : Except CompileError α} (h : s.Narrows x y) (f : α → β) :
    s.Narrows (f <$> x) (f <$> y) := by
  rcases h with rfl | ⟨error, rfl, hrefuses⟩
  · exact .refl _
  · exact Or.inr ⟨error, rfl, hrefuses⟩

/-- Two runs over a list. -/
theorem narrows_mapM {f g : α → Except CompileError β} (h : ∀ a, s.Narrows (f a) (g a))
    (as : List α) : s.Narrows (as.mapM f) (as.mapM g) := by
  induction as with
  | nil => exact .refl _
  | cons a as ih =>
    rw [List.mapM_cons, List.mapM_cons]
    exact (h a).bind fun _ => ih.bind fun _ => .refl _

/-- Two runs over a list that check its entries. -/
theorem narrows_forM {f g : α → Except CompileError PUnit} (h : ∀ a, s.Narrows (f a) (g a))
    (as : List α) : s.Narrows (as.forM f) (as.forM g) := by
  induction as with
  | nil => exact .refl _
  | cons a as ih =>
    show s.Narrows (f a >>= fun _ => as.forM f) (g a >>= fun _ => as.forM g)
    exact (h a).bind fun _ => ih

/-- Two runs that draw names, from the same names that are used. -/
def NarrowsFrom (s : Schema) (strict lenient : Compile.Naming α) : Prop :=
  ∀ used, s.Narrows (strict used) (lenient used)

theorem NarrowsFrom.refl (x : Compile.Naming α) : s.NarrowsFrom x x := fun _ => .refl _

/-- Two runs that draw names take the same steps one after the other. -/
theorem NarrowsFrom.bind {x y : Compile.Naming α} {f g : α → Compile.Naming β}
    (h : s.NarrowsFrom x y) (hnext : ∀ a, s.NarrowsFrom (f a) (g a)) :
    s.NarrowsFrom (x >>= f) (y >>= g) :=
  fun used => (h used).bind fun result => hnext result.1 result.2

/-- Runs that draw no names leave those that are used as they are. -/
theorem Narrows.lift {x y : Except CompileError α} (h : s.Narrows x y) :
    s.NarrowsFrom (liftM x) (liftM y) :=
  fun _ => h.bind fun _ => .refl _

end Schema

namespace Compile

open Schema

/-- The same schema without strict validation. -/
def Context.lenient (c : Context) : Context := { c with strict := false }

@[simp]
theorem Context.lenient_schema (c : Context) : c.lenient.schema = c.schema := rfl

variable {c : Context} {q : Query}

/-- A model is accepted or refused in a strict run, and always accepted in a lenient one. -/
theorem narrows_checkModel (c : Context) (model : String) :
    c.schema.Narrows (c.checkModel model) (c.lenient.checkModel model) := by
  have hlenient : c.lenient.checkModel model = .ok () := rfl
  cases h : c.checkModel model with
  | error error => exact Or.inr ⟨error, rfl, refuses_of_checkModel h⟩
  | ok _ => exact Or.inl hlenient.symm

/-! ## Filters -/

mutual

/-- The conditions of a filter in two runs. -/
theorem narrows_conditions (scope : Scope) : (filter : List (String × Criterion)) →
    c.schema.NarrowsFrom (conditions c scope filter) (conditions c.lenient scope filter)
  | [] => by
    rw [conditions, conditions]
    exact .refl _
  | (key, criterion) :: rest => by
    rw [conditions, conditions]
    exact (narrows_criterionConditions scope key criterion).bind fun _ =>
      (narrows_conditions scope rest).bind fun _ => .refl _

/-- The conditions of one entry of a filter in two runs. -/
theorem narrows_criterionConditions (scope : Scope) (key : String) : (criterion : Criterion) →
    c.schema.NarrowsFrom (criterionConditions c scope key criterion)
      (criterionConditions c.lenient scope key criterion)
  | .literal value => by
    rw [criterionConditions, criterionConditions]
    exact .refl _
  | .comparison operators => by
    rw [criterionConditions, criterionConditions]
    exact .refl _
  | .logical connective operands => by
    rw [criterionConditions, criterionConditions]
    dsimp only
    split
    · exact .refl _
    · exact (narrows_clauses scope operands).bind fun _ => .refl _
  | .related quantifier nested => by
    rw [criterionConditions, criterionConditions]
    refine NarrowsFrom.bind (.refl _) fun relation => ?_
    refine NarrowsFrom.bind (narrows_checkModel c relation.target).lift fun _ => ?_
    refine NarrowsFrom.bind (.refl _) fun entry => ?_
    exact (narrows_conditions _ nested).bind fun _ => .refl _

/-- The clauses of filters in two runs. -/
theorem narrows_clauses (scope : Scope) : (filters : List (List (String × Criterion))) →
    c.schema.NarrowsFrom (clauses c scope filters) (clauses c.lenient scope filters)
  | [] => by
    rw [clauses, clauses]
    exact .refl _
  | filter :: rest => by
    rw [clauses, clauses]
    exact (narrows_conditions scope filter).bind fun _ =>
      (narrows_clauses scope rest).bind fun _ => .refl _

end

/-- The clause of a filter in two runs. -/
theorem narrows_clauseOf (row : Occurrence) (visible : List String) (filter : Filter) :
    c.schema.Narrows (clauseOf c row visible filter) (clauseOf c.lenient row visible filter) :=
  (narrows_conditions ⟨row, visible, false⟩ filter visible).map Prod.fst

/-- The clause of a filter that may be missing in two runs. -/
theorem narrows_optionalClause (row : Occurrence) (visible : List String)
    (filter : Option Filter) :
    c.schema.Narrows (optionalClause c row visible filter)
      (optionalClause c.lenient row visible filter) := by
  cases filter with
  | none => exact .refl _
  | some filter => exact narrows_clauseOf row visible filter

/-! ## Reads -/

/-- Relations are numbered by the schema alone. -/
theorem number_lenient (next : Nat) (queue : List (Occurrence × IncludeTree)) :
    number c.lenient next queue = number c next queue := by
  induction next, queue using number.induct c with
  | case1 next => rw [number, number]
  | case2 next parent tree queue join ih =>
    rw [number, number]
    exact congrArg (List.cons join) ih

/-- The joins of a selection in two runs. -/
theorem narrows_planJoins (base : Occurrence) (selection : Selection) :
    c.schema.Narrows (planJoins c base selection) (planJoins c.lenient base selection) := by
  rw [planJoins, planJoins, number_lenient]
  exact (narrows_forM (fun join : PlannedJoin => narrows_checkModel c join.relation.target) _).bind
    fun _ => .refl _

/-- A join in two runs. -/
theorem narrows_renderJoin (visible : List String) (join : PlannedJoin) :
    c.schema.Narrows (renderJoin c visible join) (renderJoin c.lenient visible join) :=
  Narrows.bind (.refl _) fun _ =>
    (narrows_optionalClause join.row visible join.filter).bind fun _ => .refl _

/-- A page in two runs. -/
theorem narrows_planPage (model : String) (arguments : Arguments) (take : Option Int64) :
    c.schema.Narrows (planPage c model arguments take) (planPage c.lenient model arguments take) :=
  (narrows_optionalClause _ _ arguments.filter).bind fun _ => .refl _

/-- A computed field in two runs. -/
theorem narrows_planComputed (base : Occurrence) (aliasName : String) (field : ComputedField) :
    c.schema.Narrows (planComputed c base aliasName field)
      (planComputed c.lenient base aliasName field) :=
  (narrows_checkModel c field.table).bind fun _ => .refl _

/-- A read that finds rows in two runs. -/
theorem narrows_planFind (q : Query) :
    c.schema.Narrows (planFind c q) (planFind c.lenient q) := by
  rw [planFind_eq, planFind_eq]
  refine Narrows.bind (narrows_planJoins _ _) fun joins => ?_
  have hcomputed := narrows_mapM
    (fun field : String × ComputedField =>
      narrows_planComputed (c := c) (findBase c q) field.1 field.2) q.arguments.computed
  refine Narrows.bind hcomputed fun computed => ?_
  have hjoined (visible : List String) := narrows_mapM
    (fun join : PlannedJoin => narrows_renderJoin (c := c) visible join) joins
  split
  · exact (narrows_planPage _ _ _).bind fun _ => (hjoined _).bind fun _ => .refl _
  · exact (hjoined _).bind fun _ =>
      (narrows_optionalClause _ _ q.arguments.filter).bind fun _ => .refl _

/-- Where counts and aggregates take their rows from in two runs. -/
theorem narrows_planSource (q : Query) :
    c.schema.Narrows (planSource c q) (planSource c.lenient q) := by
  rw [planSource, planSource]
  split
  · exact (narrows_planPage _ _ _).bind fun _ => .refl _
  · exact (narrows_optionalClause _ _ q.arguments.filter).bind fun _ => .refl _

/-- A read that counts rows in two runs. -/
theorem narrows_planCount (q : Query) : c.schema.Narrows (planCount c q) (planCount c.lenient q) :=
  (narrows_planSource q).bind fun _ => .refl _

/-- The aggregates of rows in two runs. -/
theorem narrows_planAggregates (filtered : Bool) (row : Occurrence) (spec : Aggregates) :
    c.schema.Narrows (planAggregates c filtered row spec)
      (planAggregates c.lenient filtered row spec) := by
  rw [planAggregates, planAggregates]
  dsimp only
  split
  · have hcounts := narrows_mapM
      (fun counted : String × Filter =>
        (narrows_clauseOf (c := c) row [row.name] counted.2).map (Sql.Item.filteredCount · counted.1))
      spec.filtered
    exact hcounts.bind fun _ => .refl _
  · exact .refl _

/-- A read that aggregates rows in two runs. -/
theorem narrows_planAggregate (filtered : Bool) (q : Query) :
    c.schema.Narrows (planAggregate c filtered q) (planAggregate c.lenient filtered q) := by
  rw [planAggregate, planAggregate]
  refine Narrows.bind (narrows_planAggregates filtered _ _) fun items => ?_
  dsimp only
  split
  · exact .refl _
  · exact (narrows_planSource q).bind fun _ => .refl _

/-- A read that aggregates rows in groups in two runs. -/
theorem narrows_planGroupBy (filtered : Bool) (q : Query) :
    c.schema.Narrows (planGroupBy c filtered q) (planGroupBy c.lenient filtered q) := by
  rw [planGroupBy, planGroupBy]
  dsimp only
  split
  · exact .refl _
  · exact (narrows_planAggregates filtered _ _).bind fun _ =>
      (narrows_optionalClause _ _ q.arguments.filter).bind fun _ => .refl _

/-! ## Writes -/

/-- The conditions of a write in two runs. -/
theorem narrows_writtenClause (q : Query) :
    c.schema.Narrows (writtenClause c q) (writtenClause c.lenient q) :=
  narrows_optionalClause _ _ q.arguments.filter

/-- An update in two runs. -/
theorem narrows_planUpdate (q : Query) (returned : Bool) :
    c.schema.Narrows (planUpdate c q returned) (planUpdate c.lenient q returned) := by
  rw [planUpdate, planUpdate]
  split
  · refine Narrows.bind (.refl _) fun assignments => ?_
    dsimp only
    split
    · exact .refl _
    · exact (narrows_writtenClause q).bind fun _ => .refl _
  · exact .refl _
  · exact .refl _

/-- A delete in two runs. -/
theorem narrows_planDelete (q : Query) :
    c.schema.Narrows (planDelete c q) (planDelete c.lenient q) :=
  (narrows_writtenClause q).bind fun _ => .refl _

/-! ## Plans -/

/-- A plan in two runs. -/
theorem narrows_plan (filtered : Bool) (q : Query) :
    c.schema.Narrows (plan c filtered q) (plan c.lenient filtered q) := by
  rw [plan, plan]
  refine Narrows.bind (narrows_checkModel c q.model) fun _ => ?_
  split
  · exact (narrows_planFind q).bind fun _ => .refl _
  · exact (narrows_planFind q).bind fun _ => .refl _
  · exact (narrows_planFind q).bind fun _ => .refl _
  · exact (narrows_planFind q).bind fun _ => .refl _
  · exact (narrows_planFind q).bind fun _ => .refl _
  · exact (narrows_planCount q).bind fun _ => .refl _
  · exact (narrows_planAggregate filtered q).bind fun _ => .refl _
  · exact (narrows_planGroupBy filtered q).bind fun _ => .refl _
  -- inserts are planned by the schema alone
  · exact .refl _
  · exact .refl _
  · exact (narrows_planUpdate q true).bind fun _ => .refl _
  · exact (narrows_planUpdate q false).bind fun _ => .refl _
  · exact .refl _
  · exact (narrows_planDelete q).bind fun _ => .refl _
  · exact (narrows_planDelete q).bind fun _ => .refl _

/-- A relation that rows are connected over in two runs. -/
theorem narrows_connectable (model field : String) :
    c.schema.Narrows (connectable c model field) (connectable c.lenient model field) := by
  rw [connectable, connectable, Context.lenient_schema]
  split
  · exact .refl _
  · split
    · exact (narrows_checkModel c _).bind fun _ => .refl _
    · exact .refl _

/-- A record is taken apart in two runs. -/
theorem narrows_splitRecord (model : String) (record : DataRecord) :
    c.schema.Narrows (splitRecord c model record) (splitRecord c.lenient model record) := by
  induction record with
  | nil => exact .refl _
  | cons entry rest ih =>
    obtain ⟨field, datum⟩ := entry
    cases datum with
    | value value => exact ih.bind fun _ => .refl _
    | relation write =>
      exact (narrows_connectable model field).bind fun _ => ih.bind fun _ => .refl _

/-- The plan of the row itself in two runs. -/
theorem narrows_planRow (filtered : Bool) (q : Query) (row : DataRecord) :
    c.schema.Narrows (planRow c filtered q row) (planRow c.lenient filtered q row) := by
  rw [planRow, planRow]
  split
  · exact (narrows_planFind _).bind fun _ => .refl _
  · exact narrows_plan filtered _

/-- A mutation in two runs. -/
theorem narrows_planMutation (filtered : Bool) (q : Query) :
    c.schema.Narrows (planMutation c filtered q) (planMutation c.lenient filtered q) := by
  have hwhole : c.schema.Narrows
      (plan c filtered q >>= fun main => pure { main := main : MutationPlan })
      (plan c.lenient filtered q >>= fun main => pure { main := main }) :=
    (narrows_plan filtered q).bind fun _ => .refl _
  rw [planMutation, planMutation]
  split
  · refine Narrows.bind (narrows_splitRecord q.model _) fun parts => ?_
    dsimp only
    split
    · exact hwhole
    · split
      · exact .refl _
      · exact (narrows_planRow filtered q parts.1).bind fun _ => .refl _
  · exact hwhole

end Compile

end RelationalQuery
