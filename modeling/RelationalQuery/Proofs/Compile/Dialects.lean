import Mathlib.Data.List.Forall2
import RelationalQuery.Proofs.Blank.Mutation
import RelationalQuery.Proofs.Sql.Outside
import RelationalQuery.Proofs.Sql.Params

/-!
# One query in all dialects

The plan of a query does not depend on the dialect, but for filtered counts: where the dialect has
none they are left out. So the statements of two dialects are written from one tree, which binds the
same values in both.

* `plan_eq_of_unfiltered` — without filtered counts a query has one plan.
* `plan_withoutFilteredCounts` — where they are left out, they may as well not be asked for.
* `Statement.Corresponds` — what the statements of one tree have in common.
-/

namespace RelationalQuery

/-! ## Filtered counts -/

/-- The filtered counts that a query asks for. -/
def Query.filteredCounts (q : Query) : List (String × Filter) :=
  (q.arguments.aggregates.getD {}).filtered

/-- The query without its filtered counts. -/
def Query.withoutFilteredCounts (q : Query) : Query :=
  { q with arguments := { q.arguments with
      aggregates := q.arguments.aggregates.map fun spec => { spec with filtered := [] } } }

namespace Compile

variable {c : Context} {q : Query}

/-- Without filtered counts it does not matter whether the dialect has them. -/
theorem planAggregates_eq {spec : Aggregates} (h : spec.filtered = []) (row : Occurrence) :
    planAggregates c true row spec = planAggregates c false row spec := by
  rw [planAggregates, planAggregates, h]
  rfl

/-- A query without filtered counts has the same plan in all dialects. -/
theorem plan_eq_of_unfiltered (h : q.filteredCounts = []) (filtered filtered' : Bool) :
    plan c filtered q = plan c filtered' q := by
  have hplan : plan c true q = plan c false q := by
    have haggregate : planAggregate c true q = planAggregate c false q := by
      simp only [planAggregate, planAggregates_eq h]
    have hgroup : planGroupBy c true q = planGroupBy c false q := by
      simp only [planGroupBy, planAggregates_eq h]
    rw [plan, plan, haggregate, hgroup]
  cases filtered <;> cases filtered' <;> first | rfl | exact hplan | exact hplan.symm

/-- A query without filtered counts has the same mutation in all dialects. -/
theorem planMutation_eq_of_unfiltered (h : q.filteredCounts = []) (filtered filtered' : Bool) :
    planMutation c filtered q = planMutation c filtered' q := by
  have hrow (row : DataRecord) : planRow c filtered q row = planRow c filtered' q row := by
    -- what is left of the record asks for the same aggregates
    have hplan := plan_eq_of_unfiltered (c := c)
      (q := { q with arguments := { q.arguments with data := some (.one row) } }) h
    rw [planRow, planRow, hplan filtered filtered']
  simp only [planMutation, plan_eq_of_unfiltered h filtered filtered', hrow]

/-- Aggregates without filtered counts are planned like those whose filtered counts are left out. -/
theorem planAggregates_withoutFilteredCounts (row : Occurrence) :
    planAggregates c false row (q.withoutFilteredCounts.arguments.aggregates.getD {}) =
      planAggregates c false row (q.arguments.aggregates.getD {}) := by
  rw [Query.withoutFilteredCounts]
  cases q.arguments.aggregates <;> rfl

/-- Where filtered counts are left out, a read of aggregates is that of the query without them. -/
theorem planAggregate_withoutFilteredCounts {r : Read} (h : planAggregate c false q = .ok r) :
    planAggregate c false q.withoutFilteredCounts = .ok r := by
  rw [planAggregate, bind_eq_ok_iff] at h ⊢
  obtain ⟨items, hitems, h⟩ := h
  refine ⟨items, (planAggregates_withoutFilteredCounts _).trans hitems, ?_⟩
  extract_lets rest at h
  split at h
  · cases h
  · next hsome =>
    extract_lets rest'
    rw [if_neg hsome]
    exact h

/-- Where filtered counts are left out, the plan of a query is that of the query without them. -/
theorem plan_withoutFilteredCounts {p : Plan} (h : plan c false q = .ok p) :
    plan c false q.withoutFilteredCounts = .ok p := by
  have hgroup : planGroupBy c false q.withoutFilteredCounts = planGroupBy c false q := by
    simp only [planGroupBy, planAggregates_withoutFilteredCounts]
    rfl
  rw [plan, bind_eq_ok_iff] at h ⊢
  obtain ⟨accepted, haccepted, h⟩ := h
  refine ⟨accepted, haccepted, ?_⟩
  rw [show q.withoutFilteredCounts.action = q.action from rfl, hgroup]
  generalize q.action = action at h ⊢
  cases action with
  | aggregate =>
    dsimp only at h ⊢
    rw [bind_eq_ok_iff] at h ⊢
    obtain ⟨read, hread, h⟩ := h
    exact ⟨read, planAggregate_withoutFilteredCounts hread, h⟩
  | _ => exact h

/-- Where filtered counts are left out, the mutation of a query is that of the query without them. -/
theorem planMutation_withoutFilteredCounts {p : MutationPlan}
    (h : planMutation c false q = .ok p) :
    planMutation c false q.withoutFilteredCounts = .ok p := by
  have hrow {row : DataRecord} {main : Plan} (h : planRow c false q row = .ok main) :
      planRow c false q.withoutFilteredCounts row = .ok main := by
    rw [planRow] at h ⊢
    rw [show q.withoutFilteredCounts.action = q.action from rfl]
    split at h
    · next hread =>
      rw [if_pos hread]
      exact h
    · next hwrite =>
      rw [if_neg hwrite]
      exact plan_withoutFilteredCounts h
  have halone {p : MutationPlan} (h : (do return { main := ← plan c false q }) = Except.ok p) :
      (do return { main := ← plan c false q.withoutFilteredCounts }) = Except.ok p := by
    rw [bind_eq_ok_iff] at h ⊢
    obtain ⟨main, hmain, h⟩ := h
    exact ⟨main, plan_withoutFilteredCounts hmain, h⟩
  rw [planMutation] at h ⊢
  rw [show q.withoutFilteredCounts.arguments.data = q.arguments.data from rfl]
  split at h
  · next record hdata =>
    rw [bind_eq_ok_iff] at h ⊢
    obtain ⟨⟨row, junctions⟩, hsplit, h⟩ := h
    refine ⟨(row, junctions), hsplit, ?_⟩
    dsimp only at h ⊢
    split at h
    · next hnone =>
      rw [if_pos hnone]
      exact halone h
    · next hsome =>
      rw [if_neg hsome, show q.withoutFilteredCounts.action = q.action from rfl]
      split at h
      · cases h
      · next hconnects =>
        rw [if_neg hconnects]
        rw [bind_eq_ok_iff] at h ⊢
        obtain ⟨main, hmain, h⟩ := h
        exact ⟨main, hrow hmain, h⟩
  · exact halone h

end Compile

/-! ## Statements of one tree -/

open Compile

variable {d d' : Dialect}

/-- What two statements have in common that two dialects have for one query. -/
structure Statement.Corresponds (d d' : Dialect) (s s' : Statement) : Prop where
  computed : s.computed = s'.computed
  inclusions : s.inclusions = s'.inclusions
  args_perm : s.args.Perm s'.args
  /-- Where placeholders have no numbers, the order of the arguments is that of the text. -/
  args_eq : d ≠ .postgres → d' ≠ .postgres → s.args = s'.args

/-- What two mutations have in common that two dialects have for one query. -/
structure Mutation.Corresponds (d d' : Dialect) (m m' : Mutation) : Prop where
  main : m.main.Corresponds d d' m'.main
  relations : List.Forall₂ (Statement.Corresponds d d') m.relations m'.relations
  generatedId : m.generatedId = m'.generatedId

/-- Fragments with the same values become statements with the same arguments. -/
theorem Statement.corresponds_ofFragment {f f' : Fragment} (h : f.params = f'.params)
    (returnsRows returnsRows' : Bool) :
    (ofFragment d returnsRows f).Corresponds d d' (ofFragment d' returnsRows' f') where
  computed := rfl
  inclusions := rfl
  args_perm := by
    rw [Fragment.args_ofFragment, Fragment.args_ofFragment, h]
    exact (Fragment.arguments_perm _ _).trans (Fragment.arguments_perm _ _).symm
  args_eq hd hd' := by
    rw [Fragment.args_ofFragment, Fragment.args_ofFragment, h, isNumbered_eq_false hd, isNumbered_eq_false hd']

namespace Compile

/-- The statements of a write in two dialects correspond. -/
theorem corresponds_write (w : Sql.Write) : (w.statement d).Corresponds d d' (w.statement d') :=
  Statement.corresponds_ofFragment (w.params_fragment d d') _ _

/-- The statements of a plan in two dialects correspond. -/
theorem Plan.corresponds_statement (p : Plan) :
    (p.statement d).Corresponds d d' (p.statement d') := by
  cases p with
  | read r =>
    have hread : (Statement.ofFragment d true _).Corresponds d d' (.ofFragment d' true _) :=
      Statement.corresponds_ofFragment (r.select.params_fragment d d') true true
    exact ⟨rfl, rfl, hread.args_perm, hread.args_eq⟩
  | write w => exact corresponds_write w

/-- The mutations of a plan in two dialects correspond. -/
theorem MutationPlan.corresponds_mutation (p : MutationPlan) :
    (p.mutation d).Corresponds d d' (p.mutation d') where
  main := p.main.corresponds_statement
  relations := by
    show List.Forall₂ _ (p.junctions.map _) (p.junctions.map _)
    rw [List.forall₂_map_left_iff, List.forall₂_map_right_iff, List.forall₂_same]
    exact fun w _ => corresponds_write w
  generatedId := rfl

end Compile

/-! ## Compilers -/

namespace Compiler

variable {k : Compiler} {q : Query}

/-- The compiler for another dialect, with the same schema and settings. -/
def speaking (k : Compiler) (d : Dialect) : Compiler := { k with dialect := d }

/-- What is the same for a query in all dialects, and what is left to them. -/
structure Portable (k : Compiler) (q : Query) : Prop where
  /-- Without filtered counts, all dialects refuse the query for the same reason, or have
  statements that correspond. -/
  statement : q.filteredCounts = [] → ∀ d d', SameOutcome (Statement.Corresponds d d')
    ((k.speaking d).statement q) ((k.speaking d').statement q)
  mutation : q.filteredCounts = [] → ∀ d d', SameOutcome (Mutation.Corresponds d d')
    ((k.speaking d).mutation q) ((k.speaking d').mutation q)
  /-- Where there are no filtered counts, they are left out. -/
  statement_without : ∀ d, d.has .filteredAggregates = false → ∀ s,
    (k.speaking d).statement q = .ok s → (k.speaking d).statement q.withoutFilteredCounts = .ok s
  mutation_without : ∀ d, d.has .filteredAggregates = false → ∀ m,
    (k.speaking d).mutation q = .ok m → (k.speaking d).mutation q.withoutFilteredCounts = .ok m
  /-- No statement uses what is foreign to its dialect. -/
  keepsTo : ∀ d s, (k.speaking d).HandsOut q s → s.KeepsTo d

/-- What is written from one plan in two dialects has the same outcome. -/
theorem sameOutcome_map {α β : Type} {f g : α → β} {alike : β → β → Prop}
    (h : ∀ a, alike (f a) (g a)) (x : Except CompileError α) :
    SameOutcome alike (f <$> x) (g <$> x) := by
  cases x with
  | error error => exact rfl
  | ok a => exact h a

/-- Every plan of a compiler is written of phrases. -/
theorem written_of_plans {p : Plan} (h : k.Plans q p) :
    Fragment.Written k.dialect false (p.fragment k.dialect) := by
  cases h with
  | statement h => exact written_of_planned (planned_of_plan h)
  | main h =>
    obtain ⟨q', hplanned, -, -⟩ := planned_of_planMutation h
    exact written_of_planned hplanned
  | relation h hw => exact Sql.Write.written_fragment _

/-- Every statement that a compiler hands out keeps to its dialect. -/
theorem keepsTo_of_handsOut {s : Statement} (h : k.HandsOut q s) : s.KeepsTo k.dialect := by
  obtain ⟨p, hplans, hsql⟩ := exists_plans_of_handsOut h
  refine .of_sql_eq (Statement.keepsTo_ofFragment (written_of_plans hplans) true) (hsql.trans ?_)
  cases p <;> rfl

/-- One query means the same to all dialects: whatever the schema and the settings are, they bind the
same values for it, and differ in filtered counts and in words only. -/
theorem portable (k : Compiler) (q : Query) : k.Portable q where
  statement h d d' := by
    show SameOutcome _ (_ <$> plan k.context _ q) (_ <$> plan k.context _ q)
    rw [plan_eq_of_unfiltered h _ (d'.has .filteredAggregates)]
    exact sameOutcome_map (fun p => p.corresponds_statement) _
  mutation h d d' := by
    show SameOutcome _ (_ <$> planMutation k.context _ q) (_ <$> planMutation k.context _ q)
    rw [planMutation_eq_of_unfiltered h _ (d'.has .filteredAggregates)]
    exact sameOutcome_map (fun p => p.corresponds_mutation) _
  statement_without d hd s h := by
    rw [Compiler.statement, map_eq_ok_iff] at h ⊢
    obtain ⟨p, hp, hs⟩ := h
    rw [show (k.speaking d).dialect = d from rfl, hd] at hp ⊢
    exact ⟨p, plan_withoutFilteredCounts hp, hs⟩
  mutation_without d hd m h := by
    rw [Compiler.mutation, map_eq_ok_iff] at h ⊢
    obtain ⟨p, hp, hm⟩ := h
    rw [show (k.speaking d).dialect = d from rfl, hd] at hp ⊢
    exact ⟨p, planMutation_withoutFilteredCounts hp, hm⟩
  keepsTo _ _ h := keepsTo_of_handsOut h

/-- Counts the users whose name has a text in it, and those of them that are grown up. -/
def countUsers (name : Value) : Query :=
  { model := "users", action := .aggregate
    arguments :=
      { filter := some [("name", .comparison [("containsInsensitive", name)])]
        aggregates := some
          { count := some { all := true }
            filtered := [("grown", [("age", .comparison [("gte", .int 18)])])] } } }

/-- Without filtered counts the users are still counted, in all dialects by the same pattern. -/
theorem portable_countUsers :
    ∃ s s', (speaking { dialect := .generic } .mysql).statement (countUsers (.text "ann")) = .ok s ∧
      (speaking { dialect := .generic } .postgres).statement
        (countUsers (.text "ann")).withoutFilteredCounts = .ok s' ∧
      s.args = [.text "%ann%"] ∧ s.KeepsTo .mysql ∧ s.Corresponds .mysql .postgres s' := by
  have hgiven := portable { dialect := .generic } (countUsers (.text "ann"))
  have hleft := portable { dialect := .generic } (countUsers (.text "ann")).withoutFilteredCounts
  obtain ⟨s, hs, hargs⟩ : ∃ s, (speaking { dialect := .generic } .mysql).statement
      (countUsers (.text "ann")) = .ok s ∧ s.args = [.text "%ann%"] := ⟨_, rfl, rfl⟩
  obtain ⟨s', hs'⟩ : ∃ s', (speaking { dialect := .generic } .postgres).statement
      (countUsers (.text "ann")).withoutFilteredCounts = .ok s' := ⟨_, rfl⟩
  have hboth := hleft.statement rfl .mysql .postgres
  rw [hgiven.statement_without .mysql rfl s hs, hs'] at hboth
  exact ⟨s, s', hs, hs', hargs, hgiven.keepsTo .mysql s (.statement hs), hboth⟩

end Compiler

end RelationalQuery
