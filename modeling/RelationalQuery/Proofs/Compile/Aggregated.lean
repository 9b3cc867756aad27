import RelationalQuery.Proofs.Compile.AcceptedQuery
import RelationalQuery.Proofs.Query.Asked

/-!
# Why aggregates fail

A read that aggregates rows fails if nothing is left to select: where nothing is asked for, and where
nothing but filtered counts is asked for in a dialect without them. The error is to tell which of the
two it was. `classifiesByCause_iff` says when it does: unless counts are mentioned in the query, but
come to nothing, which is told as if filtered counts had been asked for.

## Shape of the proof

That a filter can be compiled at all does not depend on strict validation if the models that it
visits are accepted: `conditions_lenient` follows a strict run beside a lenient one. All that is left
to fail then is the selection itself, which `Aggregates.Fails` describes by what is asked for.
-/

namespace RelationalQuery

/-! ## Sound filters -/

/-- Whether a filter on rows of a model can be compiled: it makes sense, and the models that it visits
are accepted. -/
structure Filter.IsSound (c : Compile.Context) (model : String) (filter : Filter) : Prop where
  wellFormed : filter.IsWellFormed c.schema model
  accepted : ∀ visited, filter.Visits c.schema model visited → c.checkModel visited = .ok ()

/-- A filter visits what a part of it visits. -/
theorem Filter.Visits.mono {s : Schema} {model visited : String} {filter other : Filter}
    (h : filter.Visits s model visited) (hpart : ∀ entry ∈ filter, entry ∈ other) :
    other.Visits s model visited := by
  cases h with
  | target entry resolved => exact .target (hpart _ entry) resolved
  | related entry resolved below => exact .related (hpart _ entry) resolved below
  | logical entry mem below => exact .logical (hpart _ entry) mem below

/-! ## Failures -/

/-- What is told of aggregates of which nothing can be selected. `filtered` says whether the dialect
has filtered counts. -/
inductive Aggregates.Fails (filtered : Bool) (a : Aggregates) : CompileError → Prop
  | nothing (plain : a.IsPlainEmpty) (unfiltered : a.filtered = []) (unmentioned : a.count = none) :
    Fails filtered a .noAggregates
  | mentioned (plain : a.IsPlainEmpty) (unfiltered : a.filtered = []) (mentioned : a.count ≠ none) :
    Fails filtered a .onlyFilteredCounts
  | unsupported (plain : a.IsPlainEmpty) (asked : a.filtered ≠ []) (lacking : filtered = false) :
    Fails filtered a .onlyFilteredCounts

/-- The aggregates that a query asks for. -/
def Query.aggregates (q : Query) : Aggregates := q.arguments.aggregates.getD {}

namespace Compile

open Sql

variable {c : Context} {filtered : Bool} {q : Query} {row : Occurrence} {spec : Aggregates}

/-- Two sequences that begin with the same step agree if they do after every result of it. -/
theorem bind_congr_of_ok {α β : Type} {x : Naming α} {f g : α → Naming β}
    (h : ∀ used a after, x used = .ok (a, after) → f a = g a) : x >>= f = x >>= g := by
  funext used
  show x used >>= _ = x used >>= _
  cases hx : x used with
  | error error => rfl
  | ok result => exact congrFun (h used result.1 result.2 hx) result.2

mutual

/-- Strict validation has no say in a filter that visits accepted models only. -/
theorem conditions_lenient (scope : Scope) : (filter : List (String × Criterion)) →
    (∀ visited, Filter.Visits c.schema scope.row.model filter visited →
      c.checkModel visited = .ok ()) →
    conditions c scope filter = conditions c.lenient scope filter
  | [], _ => by rw [conditions, conditions]
  | (key, criterion) :: rest, h => by
    have hhere := criterionConditions_lenient scope key criterion fun visited hvisits =>
      h visited (hvisits.mono fun entry hentry => by
        rw [List.mem_singleton.mp hentry]
        exact List.mem_cons_self)
    have hrest := conditions_lenient scope rest fun visited hvisits =>
      h visited (hvisits.mono fun entry hentry => List.mem_cons_of_mem _ hentry)
    rw [conditions, conditions, hhere, hrest]

/-- The conditions of one entry of such a filter. -/
theorem criterionConditions_lenient (scope : Scope) (key : String) : (criterion : Criterion) →
    (∀ visited, Filter.Visits c.schema scope.row.model [(key, criterion)] visited →
      c.checkModel visited = .ok ()) →
    criterionConditions c scope key criterion = criterionConditions c.lenient scope key criterion
  | .literal value, _ => by
    rw [criterionConditions, criterionConditions]
    rfl
  | .comparison operators, _ => by
    rw [criterionConditions, criterionConditions]
    rfl
  | .logical connective operands, h => by
    have hoperands := clauses_lenient scope operands fun operand hoperand visited hvisits =>
      h visited (.logical List.mem_cons_self hoperand hvisits)
    rw [criterionConditions, criterionConditions, hoperands]
  | .related quantifier nested, h => by
    rw [criterionConditions, criterionConditions]
    refine bind_congr_of_ok fun used relation after hquantifiable => ?_
    obtain ⟨hquantifiable, -⟩ := lift_run_eq_ok_iff.mp hquantifiable
    have hresolved : c.schema.relation? scope.row.model key = some relation :=
      relation?_of_quantifiable hquantifiable
    have htarget : c.checkModel relation.target = c.lenient.checkModel relation.target :=
      h _ (.target List.mem_cons_self hresolved)
    rw [htarget]
    refine bind_congr_of_ok fun used _ after _ => ?_
    refine bind_congr_of_ok (x := enter c scope key relation) fun used entry after hentry => ?_
    have hmodel : entry.row.model = relation.target := (entered_of_enter hentry).model_row
    have hnested := conditions_lenient ⟨entry.row, entry.row.name :: scope.visible, true⟩ nested
      fun visited hvisits => h visited (.related List.mem_cons_self hresolved (hmodel ▸ hvisits))
    rw [hnested]

/-- The clauses of such filters. -/
theorem clauses_lenient (scope : Scope) : (filters : List (List (String × Criterion))) →
    (∀ filter ∈ filters, ∀ visited, Filter.Visits c.schema scope.row.model filter visited →
      c.checkModel visited = .ok ()) →
    clauses c scope filters = clauses c.lenient scope filters
  | [], _ => by rw [clauses, clauses]
  | filter :: rest, h => by
    have hfirst := conditions_lenient scope filter (h filter List.mem_cons_self)
    have hrest := clauses_lenient scope rest fun other hother =>
      h other (List.mem_cons_of_mem _ hother)
    rw [clauses, clauses, hfirst, hrest]

end

/-- A sound filter has a clause. -/
theorem exists_clauseOf_of_isSound {visible : List String} {filter : Filter}
    (h : filter.IsSound c row.model) : ∃ clause, clauseOf c row visible filter = .ok clause := by
  have hlenient : clauseOf c row visible filter = clauseOf c.lenient row visible filter := by
    rw [clauseOf, conditions_lenient ⟨row, visible, false⟩ filter h.accepted]
    rfl
  rw [hlenient]
  exact exists_clauseOf_eq_ok rfl h.wellFormed

/-- With a sound filter there are rows to aggregate. -/
theorem exists_planSource
    (h : ∀ filter, q.arguments.filter = some filter → filter.IsSound c q.model) :
    ∃ source, planSource c q = .ok source := by
  cases hgiven : q.arguments.filter with
  | none =>
    rw [planSource, planPage, hgiven]
    split <;> exact ⟨_, rfl⟩
  | some filter =>
    obtain ⟨at_, visible, f, hmodel, hsource⟩ := awaits_planSource (c := c) hgiven
    have hsound : filter.IsSound c at_.model := hmodel ▸ h filter hgiven
    rw [hsource]
    exact exists_map_eq_ok_iff.mpr (exists_clauseOf_of_isSound hsound)

/-! ## Selections -/

/-- No plain aggregate is selected if none is asked for. -/
theorem plainAggregates_eq_nil_iff {model : String} :
    plainAggregates c model spec = [] ↔ spec.IsPlainEmpty := by
  simp only [plainAggregates, List.append_eq_nil_iff, List.map_eq_nil_iff]
  constructor
  · rintro ⟨⟨⟨⟨hcount, havg⟩, hsum⟩, hmin⟩, hmax⟩
    refine ⟨fun counted hcounted => ?_, havg, hsum, hmin, hmax⟩
    rw [hcounted] at hcount
    simpa using hcount
  · rintro ⟨hcount, havg, hsum, hmin, hmax⟩
    refine ⟨⟨⟨⟨?_, havg⟩, hsum⟩, hmin⟩, hmax⟩
    cases hcounted : spec.count with
    | none => rfl
    | some counted => simpa using hcount counted hcounted

/-- With sound filters there is a selection, which is empty if neither a plain aggregate nor a
filtered count comes into it. -/
theorem exists_planAggregates (h : ∀ counted ∈ spec.filtered, counted.2.IsSound c row.model) :
    ∃ items, planAggregates c filtered row spec = .ok items ∧
      (items = [] ↔ spec.IsPlainEmpty ∧ (filtered = true → spec.filtered = [])) := by
  cases filtered with
  | false =>
    refine ⟨_, rfl, ?_⟩
    rw [List.append_nil, plainAggregates_eq_nil_iff]
    exact (and_iff_left fun hsupported => Bool.noConfusion hsupported).symm
  | true =>
    obtain ⟨counts, hcounts⟩ : ∃ counts, (spec.filtered.mapM fun counted => do
        return Item.filteredCount (← clauseOf c row [row.name] counted.2) counted.1) =
        .ok counts := by
      refine exists_mapM_eq_ok fun counted hcounted => ?_
      obtain ⟨clause, hclause⟩ := exists_clauseOf_of_isSound (h counted hcounted)
      rw [hclause]
      exact ⟨_, rfl⟩
    refine ⟨plainAggregates c row.model spec ++ counts, ?_, ?_⟩
    · rw [planAggregates, if_pos rfl, hcounts]
      rfl
    · rw [List.append_eq_nil_iff, plainAggregates_eq_nil_iff, eq_nil_iff_of_mapM hcounts]
      exact and_congr_right fun _ => ⟨fun hnone _ => hnone, fun hnone => hnone rfl⟩

/-! ## Outcomes -/

/-- Nothing at all is asked for if there is neither a plain aggregate nor a filtered count, and no
mention of counts. -/
theorem isEmpty_iff :
    spec.isEmpty = true ↔ spec.IsPlainEmpty ∧ spec.filtered = [] ∧ spec.count = none := by
  simp only [Aggregates.isEmpty, Bool.and_eq_true, List.isEmpty_iff, Option.isNone_iff_eq_none]
  constructor
  · rintro ⟨⟨⟨⟨⟨hcount, havg⟩, hsum⟩, hmin⟩, hmax⟩, hfiltered⟩
    refine ⟨⟨fun counted hcounted => ?_, havg, hsum, hmin, hmax⟩, hfiltered, hcount⟩
    rw [hcount] at hcounted
    cases hcounted
  · rintro ⟨⟨-, havg, hsum, hmin, hmax⟩, hfiltered, hcount⟩
    exact ⟨⟨⟨⟨⟨hcount, havg⟩, hsum⟩, hmin⟩, hmax⟩, hfiltered⟩

/-- Nothing is selected, and the error is told by whether nothing at all is asked for. -/
theorem fails_iff {error : CompileError} : spec.Fails filtered error ↔
    (spec.IsPlainEmpty ∧ (filtered = true → spec.filtered = [])) ∧
      error = if spec.isEmpty then .noAggregates else .onlyFilteredCounts := by
  constructor
  · intro h
    cases h with
    | nothing plain unfiltered unmentioned =>
      rw [if_pos (isEmpty_iff.mpr ⟨plain, unfiltered, unmentioned⟩)]
      exact ⟨⟨plain, fun _ => unfiltered⟩, rfl⟩
    | mentioned plain unfiltered mentioned =>
      rw [if_neg fun hempty => mentioned (isEmpty_iff.mp hempty).2.2]
      exact ⟨⟨plain, fun _ => unfiltered⟩, rfl⟩
    | unsupported plain asked lacking =>
      rw [if_neg fun hempty => asked (isEmpty_iff.mp hempty).2.1]
      exact ⟨⟨plain, fun hsupported => absurd (hsupported.symm.trans lacking) (by decide)⟩, rfl⟩
  · rintro ⟨⟨hplain, hdropped⟩, rfl⟩
    split
    · next hnothing =>
      obtain ⟨-, hunfiltered, hunmentioned⟩ := isEmpty_iff.mp hnothing
      exact .nothing hplain hunfiltered hunmentioned
    · next hsome =>
      by_cases hunfiltered : spec.filtered = []
      · refine .mentioned hplain hunfiltered fun hunmentioned => hsome ?_
        exact isEmpty_iff.mpr ⟨hplain, hunfiltered, hunmentioned⟩
      · refine .unsupported hplain hunfiltered ?_
        rw [← Bool.not_eq_true]
        exact fun hsupported => hunfiltered (hdropped hsupported)

/-- With sound filters, what is asked for decides alone whether aggregates fail, and how. -/
theorem planAggregate_eq_error_iff {error : CompileError}
    (hfilter : ∀ filter, q.arguments.filter = some filter → filter.IsSound c q.model)
    (hcounted : ∀ counted ∈ q.aggregates.filtered, counted.2.IsSound c q.model) :
    planAggregate c filtered q = .error error ↔ q.aggregates.Fails filtered error := by
  have hmodel : (aggregatedRow c q).model = q.model := by
    rw [aggregatedRow]
    split <;> rfl
  have hsound : ∀ counted ∈ q.aggregates.filtered,
      counted.2.IsSound c (aggregatedRow c q).model := hmodel ▸ hcounted
  obtain ⟨items, hitems, hnone⟩ := exists_planAggregates hsound
  obtain ⟨source, hsource⟩ := exists_planSource hfilter
  have hplan : planAggregate c filtered q = if items.isEmpty then
      .error (if q.aggregates.isEmpty then .noAggregates else .onlyFilteredCounts)
      else .ok { select := { items, base := source.1, clause := source.2 } } := by
    change (planAggregates c filtered (aggregatedRow c q) q.aggregates >>= _) = _
    rw [hitems, ok_bind]
    by_cases hempty : items.isEmpty
    · rw [if_pos hempty, if_pos hempty]
      rfl
    · rw [if_neg hempty, if_neg hempty, hsource]
      rfl
  rw [hplan, fails_iff, ← hnone]
  split
  · next hempty =>
    rw [Except.error.injEq, eq_comm]
    exact (and_iff_right (List.isEmpty_iff.mp hempty)).symm
  · next hsome => exact iff_of_false (by simp) fun h => hsome (List.isEmpty_iff.mpr h.1)

end Compile

/-! ## Compilers -/

namespace Compiler

open Compile

/-- Whether the outcome of a query that aggregates rows tells why nothing is selected: for lack of
filtered counts in the dialect, or because nothing is asked for. -/
structure ClassifiesByCause (k : Compiler) (q : Query) : Prop where
  succeeds : (∃ s, k.statement q = .ok s) ↔
    ¬ q.aggregates.IsPlainEmpty ∨ q.aggregates.filtered ≠ [] ∧ k.dialect.has .filteredAggregates
  unsupported : (∃ error, k.statement q = .error error ∧ error.kind = .unsupported) ↔
    q.aggregates.IsPlainEmpty ∧ q.aggregates.filtered ≠ [] ∧ ¬ k.dialect.has .filteredAggregates
  argument : (∃ error, k.statement q = .error error ∧ error.kind = .argument) ↔
    q.aggregates.IsPlainEmpty ∧ q.aggregates.filtered = []

variable {k : Compiler} {q : Query}

/-- Every error of a query that aggregates rows is told by what it asks for, if its model is accepted
and its filters are sound. -/
theorem statement_eq_error_iff_of_aggregate {error : CompileError} (haction : q.action = .aggregate)
    (haccepted : k.context.checkModel q.model = .ok ())
    (hfilter : ∀ filter, q.arguments.filter = some filter → filter.IsSound k.context q.model)
    (hcounted : ∀ counted ∈ q.aggregates.filtered, counted.2.IsSound k.context q.model) :
    k.statement q = .error error ↔
      q.aggregates.Fails (k.dialect.has .filteredAggregates) error := by
  rw [← planAggregate_eq_error_iff hfilter hcounted, statement, map_eq_error_iff, plan, haccepted,
    ok_bind, haction]
  exact map_eq_error_iff

/-- The outcome tells why nothing is selected, unless counts are mentioned in the query but come to
nothing, and there are no filtered counts: then their lack is blamed although none is asked for. In
any case a statement is compiled where something can be selected. Of a document all spellings of
nothing are alike but for the mention of counts. -/
theorem classifiesByCause_iff (haction : q.action = .aggregate)
    (haccepted : k.context.checkModel q.model = .ok ())
    (hfilter : ∀ filter, q.arguments.filter = some filter → filter.IsSound k.context q.model)
    (hcounted : ∀ counted ∈ q.aggregates.filtered, counted.2.IsSound k.context q.model) :
    (k.ClassifiesByCause q ↔
        ¬ (q.aggregates.IsPlainEmpty ∧ q.aggregates.filtered = [] ∧ q.aggregates.count ≠ none)) ∧
      ((∃ s, k.statement q = .ok s) ↔
        ¬ q.aggregates.IsPlainEmpty ∨
          q.aggregates.filtered ≠ [] ∧ k.dialect.has .filteredAggregates) ∧
      (∀ error, k.statement q = .error error ↔
        q.aggregates.Fails (k.dialect.has .filteredAggregates) error) ∧
      ∀ members : Dict Json, members.keys.Nodup →
        Aggregates.ofJson (.object members) = .ok q.aggregates → q.aggregates.AskedBy members := by
  have hfails (error : CompileError) : k.statement q = .error error ↔
      q.aggregates.Fails (k.dialect.has .filteredAggregates) error :=
    statement_eq_error_iff_of_aggregate haction haccepted hfilter hcounted
  have hsucceeds : (∃ s, k.statement q = .ok s) ↔ ¬ q.aggregates.IsPlainEmpty ∨
      q.aggregates.filtered ≠ [] ∧ k.dialect.has .filteredAggregates := by
    rw [← Classical.not_imp.trans and_comm, ← not_and_or]
    constructor
    · rintro ⟨s, hs⟩ hnone
      have herror := (hfails _).mpr (fails_iff.mpr ⟨hnone, rfl⟩)
      rw [hs] at herror
      cases herror
    · intro hsome
      cases hresult : k.statement q with
      | ok s => exact ⟨s, rfl⟩
      | error error => exact absurd (fails_iff.mp ((hfails error).mp hresult)).1 hsome
  refine ⟨⟨fun h => ?_, fun h => ⟨hsucceeds, ?_, ?_⟩⟩, hsucceeds, hfails, fun members hkeys hread =>
    Aggregates.askedBy_of_ofJson hkeys hread⟩
  · rintro ⟨hplain, hunfiltered, hmentioned⟩
    have herror := (hfails _).mpr (.mentioned hplain hunfiltered hmentioned)
    exact (h.unsupported.mp ⟨_, herror, rfl⟩).2.1 hunfiltered
  · constructor
    · rintro ⟨error, herror, hkind⟩
      cases (hfails error).mp herror with
      | nothing => cases hkind
      | mentioned plain unfiltered mentioned => exact absurd ⟨plain, unfiltered, mentioned⟩ h
      | unsupported plain asked lacking => exact ⟨plain, asked, Bool.not_eq_true _ ▸ lacking⟩
    · rintro ⟨hplain, hasked, hlacking⟩
      rw [Bool.not_eq_true] at hlacking
      exact ⟨_, (hfails _).mpr (.unsupported hplain hasked hlacking), rfl⟩
  · constructor
    · rintro ⟨error, herror, hkind⟩
      cases (hfails error).mp herror with
      | nothing plain unfiltered => exact ⟨plain, unfiltered⟩
      | mentioned => cases hkind
      | unsupported => cases hkind
    · rintro ⟨hplain, hunfiltered⟩
      have hunmentioned : q.aggregates.count = none :=
        Classical.byContradiction fun hmentioned => h ⟨hplain, hunfiltered, hmentioned⟩
      exact ⟨_, (hfails _).mpr (.nothing hplain hunfiltered hunmentioned), rfl⟩

/-- Counts authors of a name by other filters, and not at all if there are none. -/
def countAuthorsBy (filtered : List (String × Filter)) : Query :=
  { model := "User", action := .aggregate
    arguments :=
      { filter := some [("name", .literal (.text "Ann"))]
        aggregates := some { count := some {}, filtered } } }

/-- The filtered count of authors with posts is all that is asked for, and what the dialect lacks. -/
theorem classifiesByCause_countAuthorsBy :
    ({ authors with dialect := .mysql } : Compiler).ClassifiesByCause
      (countAuthorsBy [("published", [("posts", .related .some [])])]) := by
  have hname : Filter.IsWellFormed authors.schema "User" [("name", .literal (.text "Ann"))] :=
    List.forall_mem_singleton.mpr (.literal ⟨by decide, rfl⟩)
  obtain ⟨relation, hleads, hjoined⟩ : ∃ relation,
      authors.schema.IsRelationKey "User" "posts" relation ∧ relation.IsJoined :=
    ⟨_, ⟨by decide, rfl⟩, by simp [Relation.IsJoined, Relation.isManyToMany]⟩
  have hposts : Filter.IsWellFormed authors.schema "User" [("posts", .related .some [])] :=
    List.forall_mem_singleton.mpr (.related hleads hjoined (List.forall_mem_nil _))
  refine (classifiesByCause_iff rfl rfl (fun filter hfilter => ?_)
    (List.forall_mem_singleton.mpr ?_)).1.mpr fun h => List.cons_ne_nil _ _ h.2.1
  · obtain rfl := Option.some.inj hfilter
    exact ⟨hname, fun visited _ => checkModel_of_lenient rfl visited⟩
  · exact ⟨hposts, fun visited _ => checkModel_of_lenient rfl visited⟩

/-- The document that asks for such counts with the given members. -/
def authorsAggregation (aggregation : Dict Json) : Json :=
  .object [("modelName", .string "User"), ("action", .string "aggregate"), ("query", .object
    [("arguments", .object [("where", .object [("name", .string "Ann")]),
      ("aggregation", .object aggregation)])])]

/-- Filtered counts are blamed although there are none: counts are mentioned, to be switched off. -/
theorem statementOfJson_authorsAggregation :
    Query.ofJson (authorsAggregation [("_count", .bool false)]) = .ok (countAuthorsBy []) ∧
      authors.statementOfJson (authorsAggregation [("_count", .bool false)]) =
        .error .onlyFilteredCounts ∧
      authors.statementOfJson (authorsAggregation []) = .error .noAggregates ∧
      ¬ authors.ClassifiesByCause (countAuthorsBy []) :=
  ⟨rfl, rfl, rfl, fun h => (h.unsupported.mp ⟨_, rfl, rfl⟩).2.1 rfl⟩

end Compiler

end RelationalQuery
