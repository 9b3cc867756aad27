import RelationalQuery.Proofs.Compile.Accepted
import RelationalQuery.Proofs.Compile.Vetted

/-!
# Accepted queries

A query that is compiled without its filter is compiled with it if and only if the filter is
well-formed, and fails with the error of the filter's first departure if it is not. All that a
filter adds to a plan is a clause: `awaits_plan` says of every action that filters rows that its
plan is a function of the clause, and depends on nothing else that could fail.
-/

namespace RelationalQuery

/-- The query on all rows, without regard to its filter. -/
def Query.withoutFilter (q : Query) : Query :=
  { q with arguments := { q.arguments with filter := none } }

namespace Compile

open Sql

variable {c : Context} {q : Query} {filter : Filter} {filtered : Bool}

/-- Whether planning does nothing that can fail but to compile a filter on rows of a model. -/
def Awaits {α : Type} (c : Context) (model : String) (filter : Filter) (x : Except CompileError α) :
    Prop :=
  ∃ row visible, ∃ f : Clause → α, row.model = model ∧ x = f <$> clauseOf c row visible filter

theorem Awaits.map {α β : Type} {model : String} {x : Except CompileError α}
    (h : Awaits c model filter x) (f : α → β) : Awaits c model filter (f <$> x) := by
  obtain ⟨row, visible, g, hmodel, rfl⟩ := h
  exact ⟨row, visible, f ∘ g, hmodel, by rw [comp_map]⟩

theorem awaits_planPage (hgiven : q.arguments.filter = some filter) (take : Option Int64) :
    Awaits c q.model filter (planPage c q.model q.arguments take) := by
  rw [planPage, hgiven]
  exact ⟨_, _, _, rfl, bind_pure_comp _ _⟩

/-- A read that finds rows awaits its filter, in the page or in the read itself. -/
theorem awaits_planFind (hgiven : q.arguments.filter = some filter) {joins : List PlannedJoin}
    {computed : List Item} {joined : List Join} (parts : FindParts c q joins computed joined) :
    Awaits c q.model filter (planFind c q) := by
  rw [planFind_eq, parts.planned, ok_bind, parts.fields, ok_bind]
  by_cases hpage : pagesFirst q joins
  · rw [if_pos hpage]
    simp only [parts.rendered, bind_pure_comp]
    exact (awaits_planPage hgiven _).map _
  · rw [if_neg hpage, parts.rendered, ok_bind, hgiven]
    exact ⟨findBase c q, _, _, model_findBase c q, bind_pure_comp _ _⟩

theorem awaits_planSource (hgiven : q.arguments.filter = some filter) :
    Awaits c q.model filter (planSource c q) := by
  by_cases hpage : isPaginated q.arguments
  · rw [planSource, if_pos hpage, bind_pure_comp]
    exact (awaits_planPage hgiven _).map _
  · rw [planSource, if_neg hpage, hgiven]
    exact ⟨_, _, _, rfl, bind_pure_comp _ _⟩

theorem awaits_planAggregate (hgiven : q.arguments.filter = some filter) {r : Read}
    (h : planAggregate c filtered q.withoutFilter = .ok r) :
    Awaits c q.model filter (planAggregate c filtered q) := by
  obtain ⟨items, hitems, h⟩ := bind_eq_ok_iff.mp h
  have hitems' : planAggregates c filtered (aggregatedRow c q) (q.arguments.aggregates.getD {}) =
    .ok items := hitems
  rw [planAggregate]
  change Awaits _ _ _ (planAggregates c filtered (aggregatedRow c q) _ >>= _)
  rw [hitems', ok_bind]
  by_cases hempty : items.isEmpty
  · rw [if_pos hempty] at h
    cases h
  · dsimp only
    rw [if_neg hempty, bind_pure_comp]
    exact (awaits_planSource hgiven).map _

theorem awaits_planGroupBy (hgiven : q.arguments.filter = some filter) {r : Read}
    (h : planGroupBy c filtered q.withoutFilter = .ok r) :
    Awaits c q.model filter (planGroupBy c filtered q) := by
  obtain ⟨aggregates, clause, haggregates, -, -⟩ := exists_of_planGroupBy h
  have haggregates' : planAggregates c filtered (.plain c q.model)
    (q.arguments.aggregates.getD {}) = .ok aggregates := haggregates
  have hsome : ¬ q.arguments.groupBy.isEmpty := by
    intro hempty
    simp only [planGroupBy, Query.withoutFilter, hempty] at h
    cases h
  rw [planGroupBy, if_neg hsome]
  dsimp only
  rw [haggregates', ok_bind, hgiven]
  exact ⟨_, _, _, rfl, bind_pure_comp _ _⟩

theorem awaits_writtenClause (hgiven : q.arguments.filter = some filter) :
    Awaits c q.model filter (writtenClause c q) := by
  rw [writtenClause, hgiven]
  exact ⟨_, _, id, rfl, (id_map _).symm⟩

theorem awaits_planUpdate (hgiven : q.arguments.filter = some filter) {returned : Bool} {w : Write}
    (h : planUpdate c q.withoutFilter returned = .ok w) :
    Awaits c q.model filter (planUpdate c q returned) := by
  simp only [planUpdate, Query.withoutFilter] at h ⊢
  cases hdata : q.arguments.data with
  | none =>
    rw [hdata] at h
    cases h
  | some data =>
    cases data with
    | many records =>
      rw [hdata] at h
      cases h
    | one record =>
      rw [hdata] at h
      obtain ⟨assignments, hassignments, h⟩ := bind_eq_ok_iff.mp h
      dsimp only
      rw [hassignments, ok_bind]
      by_cases hempty : assignments.isEmpty
      · rw [if_pos hempty] at h
        cases h
      · rw [if_neg hempty, bind_pure_comp]
        exact (awaits_writtenClause hgiven).map _

theorem awaits_planDelete (hgiven : q.arguments.filter = some filter) :
    Awaits c q.model filter (planDelete c q) := by
  rw [planDelete, bind_pure_comp]
  exact (awaits_writtenClause hgiven).map _

/-- Every action that filters rows awaits its filter, if all else is compiled. -/
theorem awaits_plan (haction : q.action.filtersRows) (hgiven : q.arguments.filter = some filter)
    {p : Plan} (h : plan c filtered q.withoutFilter = .ok p) :
    Awaits c q.model filter (plan c filtered q) := by
  have hfind (h : Plan.read <$> planFind c q.withoutFilter = .ok p) :
      Awaits c q.model filter (Plan.read <$> planFind c q) := by
    obtain ⟨r, hr, -⟩ := map_eq_ok_iff.mp h
    obtain ⟨joins, computed, joined, parts, -⟩ := exists_of_planFind hr
    exact (awaits_planFind hgiven ⟨parts.planned, parts.fields, parts.rendered⟩).map _
  have hupdate {returned : Bool}
      (h : Plan.write <$> planUpdate c q.withoutFilter returned = .ok p) :
      Awaits c q.model filter (Plan.write <$> planUpdate c q returned) := by
    obtain ⟨w, hw, -⟩ := map_eq_ok_iff.mp h
    exact (awaits_planUpdate hgiven hw).map _
  rw [plan, bind_eq_ok_iff] at h
  obtain ⟨_, hchecked, h⟩ := h
  have hchecked' : c.checkModel q.model = .ok () := hchecked
  rw [plan, hchecked', ok_bind]
  have haction' : q.withoutFilter.action = q.action := rfl
  rw [haction'] at h
  cases hkind : q.action with
  | findUnique => rw [hkind] at h; exact hfind h
  | findUniqueOrThrow => rw [hkind] at h; exact hfind h
  | findFirst => rw [hkind] at h; exact hfind h
  | findFirstOrThrow => rw [hkind] at h; exact hfind h
  | findMany => rw [hkind] at h; exact hfind h
  | count => exact (((awaits_planSource hgiven).map _).map _)
  | aggregate =>
    rw [hkind] at h
    obtain ⟨r, hr, -⟩ := map_eq_ok_iff.mp h
    exact (awaits_planAggregate hgiven hr).map _
  | groupBy =>
    rw [hkind] at h
    obtain ⟨r, hr, -⟩ := map_eq_ok_iff.mp h
    exact (awaits_planGroupBy hgiven hr).map _
  | update => rw [hkind] at h; exact hupdate h
  | updateMany => rw [hkind] at h; exact hupdate h
  | delete => exact (awaits_planDelete hgiven).map _
  | deleteMany => exact (awaits_planDelete hgiven).map _
  | _ => rw [hkind] at haction; cases haction

end Compile

/-! ## Compilers -/

namespace Compiler

open Compile

/-- Where models need not be registered, a query that is compiled without its filter is compiled
with it if and only if the filter is well-formed. Otherwise it fails with the error of the filter's
first departure, which whoever wrote the query can mend. -/
theorem accepts_wellFormed {k : Compiler} {q : Query} {filter : Filter}
    (hlenient : k.isStrict = false) (haction : q.action.filtersRows)
    (hgiven : q.arguments.filter = some filter)
    (hvalid : ∃ s, k.statement q.withoutFilter = .ok s) :
    ((∃ s, k.statement q = .ok s) ↔ filter.IsWellFormed k.schema q.model) ∧
      (∀ error, k.statement q = .error error ↔ filter.Breaks k.schema q.model error) ∧
      ∀ error, k.statement q = .error error → error.isArgument := by
  have hstrict : k.context.strict = false := hlenient
  obtain ⟨p, hp⟩ := exists_map_eq_ok_iff.mp hvalid
  obtain ⟨row, visible, f, hmodel, hplan⟩ := awaits_plan haction hgiven hp
  rw [statement, hplan, ← comp_map]
  have hbreaks (error : CompileError) :
      (Plan.statement k.dialect ∘ f) <$> clauseOf k.context row visible filter = .error error ↔
        filter.Breaks k.schema q.model error := by
    rw [map_eq_error_iff, clauseOf_eq_error_iff hstrict, hmodel]
    rfl
  refine ⟨?_, hbreaks, fun error h => ((hbreaks error).mp h).isArgument⟩
  rw [exists_map_eq_ok_iff, exists_clauseOf_eq_ok_iff hstrict, hmodel]
  rfl

/-- The filter on authors of no post with a title that is told by comparisons. -/
def untitled (operators : Dict Value) : Filter :=
  [("name", .literal (.text "Ann")), ("NOT", .logical .not [[],
    [("posts", .related .some [("title", .comparison [("not", .object operators)])])]])]

/-- Deletes authors of no post with a title that is told by comparisons. -/
def deleteUntitled (operators : Dict Value) : Query :=
  { model := "User", action := .deleteMany, arguments := { filter := some (untitled operators) } }

/-- Unknown keys are told together, however deep in the filter they stand, by the field that they
are under; the search between them is not looked at. With known keys alone the query is compiled. -/
theorem accepts_wellFormed_deleteUntitled :
    authors.isStrict = false ∧
      (∀ operators, ∃ s, authors.statement (deleteUntitled operators).withoutFilter = .ok s) ∧
      authors.statement (deleteUntitled [("like", .int 1), ("contains", .null), ("near", .int 2)]) =
        .error (.unknownOperators "title" ["like", "near"]) ∧
      ∃ s, authors.statement (deleteUntitled [("contains", .int 1)]) = .ok s := by
  have hname : authors.schema.IsValueKey "User" "name" := ⟨by decide, rfl⟩
  have htitle : authors.schema.IsValueKey "Post" "title" := ⟨by decide, rfl⟩
  obtain ⟨relation, hleads, hjoined, htarget⟩ : ∃ relation,
      authors.schema.IsRelationKey "User" "posts" relation ∧ relation.IsJoined ∧
        relation.target = "Post" :=
    ⟨_, ⟨by decide, rfl⟩, by simp [Relation.IsJoined, Relation.isManyToMany], rfl⟩
  have hempty : Filter.IsWellFormed authors.schema "User" [] := List.forall_mem_nil _
  have hnot : IsConnectiveKey "NOT" := ⟨.not, rfl⟩
  have hsingle {operand : Value} :
      ∀ entry ∈ [(Comparison.not.key, operand)], IsComparisonKey entry.1 :=
    List.forall_mem_singleton.mpr ⟨.not, rfl⟩
  have hvalid (operators : Dict Value) :
      ∃ s, authors.statement (deleteUntitled operators).withoutFilter = .ok s := ⟨_, rfl⟩
  -- everything in front of the comparisons of the title makes sense
  have hbreaks {operators : Dict Value} {error : CompileError} (hsome : operators ≠ [])
      (h : Comparison.Breaks "title" operators error) :
      (untitled operators).Breaks authors.schema "User" error := by
    have hbelow : Filter.Breaks authors.schema relation.target
        [("title", .comparison [("not", .object operators)])] error := by
      rw [htarget]
      exact .comparison .head htitle (.negated (.head hsingle) hsome h)
    have hreached : (untitled operators).Reaches authors.schema "User" "NOT" (.logical .not ([[]] ++
        [[("posts", .related .some [("title", .comparison [("not", .object operators)])])]])) :=
      ⟨[_], [], rfl, List.forall_mem_singleton.mpr (.literal hname)⟩
    exact .logical hreached hnot (List.forall_mem_singleton.mpr hempty)
      (.related .head hleads hjoined hbelow)
  refine ⟨rfl, hvalid, ?_, ?_⟩
  · refine ((accepts_wellFormed rfl rfl rfl (hvalid _)).2.1 _).mpr (hbreaks (by simp) ?_)
    exact .unknown ⟨("like", .int 1), by simp, by decide⟩
  · refine (accepts_wellFormed rfl rfl rfl (hvalid _)).1.mpr ?_
    have hone : Value.IsSearchable (.int 1) := trivial
    have hcontains : Comparison.Fits (Comparison.search .contains false).key (.int 1) :=
      .search hone
    have hfits : Comparison.Fits "not" (.object [("contains", .int 1)]) :=
      .negated (by simp) (List.forall_mem_singleton.mpr hcontains)
    have hposts : Filter.IsWellFormed authors.schema relation.target
        [("title", .comparison [("not", .object [("contains", .int 1)])])] := by
      rw [htarget]
      exact List.forall_mem_singleton.mpr (.comparison htitle (List.forall_mem_singleton.mpr hfits))
    refine List.forall_mem_cons.mpr ⟨.literal hname, List.forall_mem_singleton.mpr ?_⟩
    refine .logical hnot (List.forall_mem_cons.mpr ⟨hempty, List.forall_mem_singleton.mpr ?_⟩)
    exact List.forall_mem_singleton.mpr (.related hleads hjoined hposts)

end Compiler

end RelationalQuery
