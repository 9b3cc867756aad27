import RelationalQuery.Proofs.Compile.Conditions
import RelationalQuery.Proofs.Compile.Connected
import RelationalQuery.Proofs.Compile.Scopes
import RelationalQuery.Proofs.Compile.Selected
import RelationalQuery.Proofs.Compile.Strict

/-!
# Vetted models

`Query.Enters` lists the ways in which a model comes into the statements of a query: as the queried
model, as the target of a relation in a filter or in a selection, as the table of a computed field, or
as the target of a relation whose rows are connected. A compilation that succeeds has checked each of
them, so a strict compiler hands out no statement on a model that it does not know, if that has the
name of a model.

## Shape of the proof

Filters are followed along `Filter.Visits`, selections along `Reached`. What a selection reaches is
joined: `exists_mem_number` is the induction on the queue of relations that are still to be numbered.
-/

namespace RelationalQuery

/-- The models that a filter on rows of a model visits: the targets of the relations that it
quantifies over, at every depth and under every connective. -/
inductive Filter.Visits (s : Schema) : String → Filter → String → Prop
  | target {model key : String} {filter nested : Filter} {quantifier : Quantifier}
    {relation : Relation} (entry : (key, .related quantifier nested) ∈ filter)
    (resolved : s.relation? model key = some relation) : Visits s model filter relation.target
  | related {model key visited : String} {filter nested : Filter} {quantifier : Quantifier}
    {relation : Relation} (entry : (key, .related quantifier nested) ∈ filter)
    (resolved : s.relation? model key = some relation)
    (below : Visits s relation.target nested visited) : Visits s model filter visited
  | logical {model key visited : String} {filter operand : Filter} {connective : Connective}
    {operands : List Filter} (entry : (key, .logical connective operands) ∈ filter)
    (mem : operand ∈ operands) (below : Visits s model operand visited) :
    Visits s model filter visited

/-- Whether an action is about the rows that its filter asks for. Inserts are not. -/
def Action.filtersRows : Action → Bool
  | .create | .createMany | .upsert => false
  | _ => true

/-- Whether an action aggregates rows. -/
def Action.aggregates : Action → Bool
  | .aggregate | .groupBy => true
  | _ => false

open Compile (Reached)

/-- The models that enter the statements of a query. `filtered` says whether the dialect has filtered
counts. -/
inductive Query.Enters (s : Schema) (filtered : Bool) (q : Query) : String → Prop
  | queried : Enters s filtered q q.model
  | filter {filter : Filter} {model : String} (action : q.action.filtersRows)
    (given : q.arguments.filter = some filter) (visits : filter.Visits s q.model model) :
    Enters s filtered q model
  | counted {aliasName model : String} {filter : Filter} (action : q.action.aggregates)
    (dialect : filtered = true)
    (given : (aliasName, filter) ∈ (q.arguments.aggregates.getD {}).filtered)
    (visits : filter.Visits s q.model model) : Enters s filtered q model
  | included {model : String} {selection : Selection} (action : q.action.isRead)
    (reached : Reached s q.model (q.selection.getD {}) model selection) : Enters s filtered q model
  | includeFilter {parent name model : String} {above below : Selection} {arguments : Arguments}
    {relation : Relation} {filter : Filter} (action : q.action.isRead)
    (reached : Reached s q.model (q.selection.getD {}) parent above)
    (nested : (name, .nested arguments below) ∈ above.fields)
    (resolved : s.relation? parent name = some relation) (given : arguments.filter = some filter)
    (visits : filter.Visits s relation.target model) : Enters s filtered q model
  | computed {name : String} {field : ComputedField} (action : q.action.isRead)
    (given : (name, field) ∈ q.arguments.computed) : Enters s filtered q field.table
  | connected {name : String} {record : DataRecord} {write : RelationWrite} {relation : Relation}
    (action : Compile.connects q.action) (data : q.arguments.data = some (.one record))
    (entry : (name, .relation write) ∈ record) (resolved : s.relation? q.model name = some relation) :
    Enters s filtered q relation.target

namespace Compile

open Sql

variable {c : Context} {q : Query}

/-! ## Filters -/

/-- Every entry of a compiled filter is compiled. -/
theorem exists_of_mem_conditions {scope : Scope} {key : String} {criterion : Criterion}
    {filter : Filter} (hmem : (key, criterion) ∈ filter) {used after : List String}
    {clause : Clause} (h : conditions c scope filter used = .ok (clause, after)) :
    ∃ here before between,
      criterionConditions c scope key criterion before = .ok (here, between) := by
  induction filter generalizing used clause with
  | nil => exact absurd hmem List.not_mem_nil
  | cons entry rest ih =>
    obtain ⟨here, others, between, hhere, hothers, -⟩ := conditions_cons_eq_ok h
    rcases List.mem_cons.mp hmem with rfl | hmem
    · exact ⟨here, used, between, hhere⟩
    · exact ih hmem hothers

/-- Every one of the compiled filters is compiled. -/
theorem exists_of_mem_clauses {scope : Scope} {operand : Filter} {operands : List Filter}
    (hmem : operand ∈ operands) {used after : List String} {parts : List Clause}
    (h : clauses c scope operands used = .ok (parts, after)) :
    ∃ clause before between, conditions c scope operand before = .ok (clause, between) := by
  induction operands generalizing used parts with
  | nil => exact absurd hmem List.not_mem_nil
  | cons first rest ih =>
    obtain ⟨clause, others, between, hfirst, hothers, -⟩ := clauses_cons_eq_ok h
    rcases List.mem_cons.mp hmem with rfl | hmem
    · exact ⟨clause, used, between, hfirst⟩
    · exact ih hmem hothers

/-- A quantifier that is compiled stands under the relation of its key, whose target is accepted. -/
theorem related_compiled {scope : Scope} {key : String} {quantifier : Quantifier} {nested : Filter}
    {relation : Relation} (hrelation : c.schema.relation? scope.row.model key = some relation)
    {used after : List String} {clause : Clause}
    (h : criterionConditions c scope key (.related quantifier nested) used = .ok (clause, after)) :
    c.checkModel relation.target = .ok () ∧
      ∃ inner between clause after, inner.row.model = relation.target ∧
        conditions c inner nested between = .ok (clause, after) := by
  obtain ⟨found, entry, between, clause, hquantifiable, hchecked, henter, hnested, -⟩ :=
    related_eq_ok h
  obtain rfl : found = relation :=
    Option.some.inj ((relation?_of_quantifiable hquantifiable).symm.trans hrelation)
  exact ⟨hchecked, _, between, clause, after, (entered_of_enter henter).model_row, hnested⟩

/-- A compiled filter visits accepted models only. -/
theorem checkModel_of_visits {model visited : String} {filter : Filter}
    (hvisits : filter.Visits c.schema model visited) {scope : Scope} (hmodel : scope.row.model = model)
    {used after : List String} {clause : Clause}
    (h : conditions c scope filter used = .ok (clause, after)) : c.checkModel visited = .ok () := by
  induction hvisits generalizing scope used clause after with
  | target entry resolved =>
    obtain ⟨here, before, between, hentry⟩ := exists_of_mem_conditions entry h
    subst hmodel
    exact (related_compiled resolved hentry).1
  | related entry resolved below ih =>
    obtain ⟨here, before, between, hentry⟩ := exists_of_mem_conditions entry h
    subst hmodel
    obtain ⟨-, inner, before, nested, after, hinner, hnested⟩ := related_compiled resolved hentry
    exact ih hinner hnested
  | logical entry mem below ih =>
    obtain ⟨here, before, between, hentry⟩ := exists_of_mem_conditions entry h
    obtain ⟨-, parts, hparts, -⟩ := logical_eq_ok hentry
    obtain ⟨clause, before, between, hoperand⟩ := exists_of_mem_clauses mem hparts
    exact ih hmodel hoperand

/-- The filter of a clause visits accepted models only. -/
theorem checkModel_of_clauseOf {row : Occurrence} {visible : List String} {filter : Filter}
    {clause : Clause} (h : clauseOf c row visible filter = .ok clause) {visited : String}
    (hvisits : filter.Visits c.schema row.model visited) : c.checkModel visited = .ok () := by
  obtain ⟨⟨clause, after⟩, hconditions, -⟩ := map_eq_ok_iff.mp h
  exact checkModel_of_visits hvisits rfl hconditions

/-! ## Joins -/

/-- The trees of a list and everything below them. -/
inductive Within (trees : List IncludeTree) : IncludeTree → Prop
  | root {tree : IncludeTree} (mem : tree ∈ trees) : Within trees tree
  | child {above tree : IncludeTree} (within : Within trees above) (mem : tree ∈ above.children) :
    Within trees tree

/-- A tree is the first of a list, or within the others together with those below the first. -/
theorem Within.eq_or_within {first tree : IncludeTree} {rest : List IncludeTree}
    (h : Within (first :: rest) tree) : tree = first ∨ Within (rest ++ first.children) tree := by
  induction h with
  | root mem =>
    rcases List.mem_cons.mp mem with rfl | mem
    · exact .inl rfl
    · exact .inr (.root (List.mem_append_left _ mem))
  | child within mem ih =>
    rcases ih with rfl | ih
    · exact .inr (.root (List.mem_append_right _ mem))
    · exact .inr (.child ih mem)

/-- Every tree within a queue gets a join. -/
theorem exists_mem_number (next : Nat) (queue : List (Occurrence × IncludeTree))
    {tree : IncludeTree} (h : Within (queue.map Prod.snd) tree) :
    ∃ n parent, .ofTree c n parent tree ∈ number c next queue := by
  induction next, queue using number.induct c with
  | case1 next =>
    -- nothing is within no trees
    exfalso
    induction h with
    | root mem => exact absurd mem List.not_mem_nil
    | child within mem ih => exact ih
  | case2 next parent first queue join ih =>
    rw [number]
    rcases h.eq_or_within with rfl | hrest
    · exact ⟨next, parent, List.mem_cons_self⟩
    · have hqueue : (queue ++ first.children.map fun child => (join.row, child)).map Prod.snd =
          queue.map Prod.snd ++ first.children := by
        rw [List.map_append, List.map_map]
        exact congrArg _ (List.map_id _)
      obtain ⟨n, parent, hmem⟩ := ih (hqueue ▸ hrest)
      exact ⟨n, parent, List.mem_cons_of_mem _ hmem⟩

/-- What a reached selection asks for is within what the whole selection asks for. -/
theorem within_of_reached {s : Schema} {model parent : String} {selection above : Selection}
    (h : Reached s model selection parent above) :
    ∀ tree ∈ forest s parent above, Within (forest s model selection) tree := by
  induction h with
  | queried => exact fun tree => .root
  | flagged reached flagged resolved ih =>
    intro tree htree
    rw [forest, forestOfFields] at htree
    exact absurd htree List.not_mem_nil
  | nested reached nested resolved ih =>
    intro tree htree
    have hmem := mem_forest_iff.mpr ⟨_, _, _, nested, resolved, List.mem_singleton.mpr rfl⟩
    exact .child (ih _ hmem) htree

/-- The joins of a selection are those of all trees within what it asks for, with accepted
targets. -/
theorem joined_of_within {base : Occurrence} {selection : Selection} {joins : List PlannedJoin}
    (h : planJoins c base selection = .ok joins) {tree : IncludeTree}
    (htree : Within (forest c.schema base.model selection) tree) :
    ∃ n parent, .ofTree c n parent tree ∈ joins ∧
      c.checkModel (PlannedJoin.ofTree c n parent tree).relation.target = .ok () := by
  rw [planJoins, bind_eq_ok_iff] at h
  obtain ⟨_, hchecked, h⟩ := h
  obtain rfl := Except.ok.inj h
  have hqueue : ((forest c.schema base.model selection).map fun tree => (base, tree)).map Prod.snd =
      forest c.schema base.model selection := by
    rw [List.map_map]
    exact List.map_id _
  obtain ⟨n, parent, hmem⟩ := exists_mem_number (c := c) 1
    ((forest c.schema base.model selection).map fun tree => (base, tree)) (hqueue.symm ▸ htree)
  exact ⟨n, parent, hmem, ok_of_mem_forM hchecked hmem⟩

/-- The clause of a filter that may be missing is that of the filter. -/
theorem checkModel_of_optionalClause {row : Occurrence} {visible : List String}
    {filter : Option Filter} {clause : Clause}
    (h : optionalClause c row visible filter = .ok clause) {given : Filter}
    (hgiven : filter = some given) {visited : String}
    (hvisits : given.Visits c.schema row.model visited) : c.checkModel visited = .ok () := by
  subst hgiven
  exact checkModel_of_clauseOf h hvisits

/-! ## Reads that find rows -/

section Find

variable {joins : List PlannedJoin} {computed : List Item} {joined : List Join}
  (parts : FindParts c q joins computed joined)

include parts

/-- A selected relation is joined to the rows of its parent, and its target is accepted. -/
theorem joined_of_reached {parent name : String} {above : Selection} {field : SelectedField}
    {relation : Relation} (hreached : Reached c.schema q.model (q.selection.getD {}) parent above)
    (hmem : (name, field) ∈ above.fields)
    (hrelation : c.schema.relation? parent name = some relation) {tree : IncludeTree}
    (htree : treeOfField c.schema name relation field = [tree]) :
    ∃ n parent, .ofTree c n parent tree ∈ joins ∧
      c.checkModel (PlannedJoin.ofTree c n parent tree).relation.target = .ok () := by
  have hwithin : Within (forest c.schema (findBase c q).model (q.selection.getD {})) tree := by
    rw [model_findBase]
    exact within_of_reached hreached tree
      (mem_forest_iff.mpr ⟨_, _, _, hmem, hrelation, htree ▸ List.mem_singleton.mpr rfl⟩)
  exact joined_of_within parts.planned hwithin

/-- The models that a selection reaches are accepted, if the queried model is. -/
theorem checkModel_of_reached (hqueried : c.checkModel q.model = .ok ()) {model : String}
    {selection : Selection}
    (h : Reached c.schema q.model (q.selection.getD {}) model selection) :
    c.checkModel model = .ok () := by
  cases h with
  | queried => exact hqueried
  | flagged reached flagged resolved =>
    obtain ⟨_, _, -, hchecked⟩ := joined_of_reached parts reached flagged resolved rfl
    exact hchecked
  | nested reached nested resolved =>
    obtain ⟨_, _, -, hchecked⟩ := joined_of_reached parts reached nested resolved rfl
    exact hchecked

/-- The filter of a selected relation visits accepted models only. -/
theorem checkModel_of_includeFilter {parent name : String} {above below : Selection}
    {arguments : Arguments} {relation : Relation} {filter : Filter} {visited : String}
    (hreached : Reached c.schema q.model (q.selection.getD {}) parent above)
    (hmem : (name, .nested arguments below) ∈ above.fields)
    (hrelation : c.schema.relation? parent name = some relation)
    (hgiven : arguments.filter = some filter)
    (hvisits : filter.Visits c.schema relation.target visited) : c.checkModel visited = .ok () := by
  obtain ⟨n, parent, hjoin, -⟩ := joined_of_reached parts hreached hmem hrelation rfl
  obtain ⟨join, -, hrendered⟩ := ok_of_mem_mapM parts.rendered hjoin
  rw [renderJoin, bind_eq_ok_iff] at hrendered
  obtain ⟨steps, -, hrendered⟩ := hrendered
  rw [bind_eq_ok_iff] at hrendered
  obtain ⟨clause, hclause, -⟩ := hrendered
  exact checkModel_of_optionalClause hclause hgiven hvisits

/-- The tables of computed fields are accepted. -/
theorem checkModel_of_computed {name : String} {field : ComputedField}
    (hmem : (name, field) ∈ q.arguments.computed) : c.checkModel field.table = .ok () := by
  obtain ⟨item, -, hitem⟩ := ok_of_mem_mapM parts.fields hmem
  rw [planComputed, bind_eq_ok_iff] at hitem
  obtain ⟨_, hchecked, -⟩ := hitem
  exact hchecked

end Find

/-! ## Plans -/

variable {filtered : Bool}

/-- Rows are connected by a create or an update. -/
theorem connects_iff {action : Action} :
    connects action = true ↔ action = .create ∨ action = .update := by
  cases action <;> simp [connects]

/-- The queried model of a plan is accepted. -/
theorem checkModel_of_plan {p : Plan} (h : plan c filtered q = .ok p) :
    c.checkModel q.model = .ok () := by
  rw [plan, bind_eq_ok_iff] at h
  obtain ⟨_, hchecked, -⟩ := h
  exact hchecked

/-- The plan of a reading action is put together from joins and computed fields. -/
theorem parts_of_plan {p : Plan} (h : plan c filtered q = .ok p) (haction : q.action.isRead) :
    ∃ joins computed joined, FindParts c q joins computed joined := by
  obtain ⟨r, hr, -⟩ := find_of_plan h haction
  obtain ⟨joins, computed, joined, parts, -⟩ := exists_of_planFind hr
  exact ⟨joins, computed, joined, parts⟩

/-- The plan of an aggregating action has the aggregates that are asked for. -/
theorem aggregates_of_plan {p : Plan} (h : plan c filtered q = .ok p)
    (haction : q.action.aggregates) :
    ∃ row items, row.model = q.model ∧
      planAggregates c filtered row (q.arguments.aggregates.getD {}) = .ok items := by
  rw [plan, bind_eq_ok_iff] at h
  obtain ⟨-, -, h⟩ := h
  cases hkind : q.action with
  | aggregate =>
    rw [hkind] at h
    obtain ⟨r, hr, -⟩ := bind_eq_ok_iff.mp h
    obtain ⟨items, source, hitems, -⟩ := aggregates_of_planAggregate hr
    refine ⟨aggregatedRow c q, items, ?_, hitems⟩
    rw [aggregatedRow]
    split <;> rfl
  | groupBy =>
    rw [hkind] at h
    obtain ⟨r, hr, -⟩ := bind_eq_ok_iff.mp h
    obtain ⟨items, clause, hitems, -⟩ := exists_of_planGroupBy hr
    exact ⟨.plain c q.model, items, rfl, hitems⟩
  | _ => rw [hkind] at haction; cases haction

/-- Where counts and aggregates take their rows from, the filter is compiled. -/
theorem clause_of_planSource {source : Base × Clause} (h : planSource c q = .ok source) :
    ∃ visible clause,
      optionalClause c (.plain c q.model) visible q.arguments.filter = .ok clause := by
  rw [planSource] at h
  split at h
  · rw [bind_eq_ok_iff] at h
    obtain ⟨page, hpage, -⟩ := h
    obtain ⟨clause, hclause, -⟩ := bind_eq_ok_iff.mp hpage
    exact ⟨_, clause, hclause⟩
  · obtain ⟨clause, hclause, -⟩ := bind_eq_ok_iff.mp h
    exact ⟨_, clause, hclause⟩

/-- Every plan of an action that filters rows has the conditions of the filter. -/
theorem clause_of_plan {p : Plan} (h : plan c filtered q = .ok p)
    (haction : q.action.filtersRows) :
    ∃ row visible clause, row.model = q.model ∧
      optionalClause c row visible q.arguments.filter = .ok clause := by
  have hfind (h : Plan.read <$> planFind c q = .ok p) : ∃ row visible clause,
      row.model = q.model ∧ optionalClause c row visible q.arguments.filter = .ok clause := by
    obtain ⟨r, hr, -⟩ := map_eq_ok_iff.mp h
    cases found_of_planFind hr with
    | paged parts page_planned =>
      obtain ⟨clause, hclause, -⟩ := bind_eq_ok_iff.mp page_planned
      exact ⟨.plain c q.model, _, clause, rfl, hclause⟩
    | direct parts clause_planned =>
      exact ⟨findBase c q, _, _, model_findBase c q, clause_planned⟩
  have hplain (h : ∃ visible clause,
      optionalClause c (.plain c q.model) visible q.arguments.filter = .ok clause) :
      ∃ row visible clause, row.model = q.model ∧
        optionalClause c row visible q.arguments.filter = .ok clause := by
    obtain ⟨visible, clause, hclause⟩ := h
    exact ⟨.plain c q.model, visible, clause, rfl, hclause⟩
  have hwrite {written : Except CompileError Write}
      (hclause : ∀ w, written = .ok w → ∃ clause, writtenClause c q = .ok clause)
      (h : Plan.write <$> written = .ok p) : ∃ row visible clause,
      row.model = q.model ∧ optionalClause c row visible q.arguments.filter = .ok clause := by
    obtain ⟨w, hw, -⟩ := map_eq_ok_iff.mp h
    obtain ⟨clause, hclause⟩ := hclause w hw
    exact hplain ⟨_, clause, hclause⟩
  have hupdate (returned : Bool) (w : Write) (hw : planUpdate c q returned = .ok w) :
      ∃ clause, writtenClause c q = .ok clause := by
    obtain ⟨_, clause, hclause, -⟩ := exists_of_planUpdate hw
    exact ⟨clause, hclause⟩
  have hdelete (w : Write) (hw : planDelete c q = .ok w) :
      ∃ clause, writtenClause c q = .ok clause := by
    obtain ⟨clause, hclause, -⟩ := exists_of_planDelete hw
    exact ⟨clause, hclause⟩
  rw [plan, bind_eq_ok_iff] at h
  obtain ⟨-, -, h⟩ := h
  cases hkind : q.action with
  | findUnique => rw [hkind] at h; exact hfind h
  | findUniqueOrThrow => rw [hkind] at h; exact hfind h
  | findFirst => rw [hkind] at h; exact hfind h
  | findFirstOrThrow => rw [hkind] at h; exact hfind h
  | findMany => rw [hkind] at h; exact hfind h
  | count =>
    rw [hkind] at h
    obtain ⟨r, hr, -⟩ := bind_eq_ok_iff.mp h
    obtain ⟨source, hsource, -⟩ := exists_of_planCount hr
    exact hplain (clause_of_planSource hsource)
  | aggregate =>
    rw [hkind] at h
    obtain ⟨r, hr, -⟩ := bind_eq_ok_iff.mp h
    obtain ⟨items, source, -, hsource, -⟩ := aggregates_of_planAggregate hr
    exact hplain (clause_of_planSource hsource)
  | groupBy =>
    rw [hkind] at h
    obtain ⟨r, hr, -⟩ := bind_eq_ok_iff.mp h
    obtain ⟨items, clause, -, hclause, -⟩ := exists_of_planGroupBy hr
    exact hplain ⟨_, clause, hclause⟩
  | update => rw [hkind] at h; exact hwrite (hupdate true) h
  | updateMany => rw [hkind] at h; exact hwrite (hupdate false) h
  | delete => rw [hkind] at h; exact hwrite hdelete h
  | deleteMany => rw [hkind] at h; exact hwrite hdelete h
  | _ => rw [hkind] at haction; cases haction

/-- The models that enter a plan are accepted. -/
theorem checkModel_of_enters {p : Plan} (h : plan c filtered q = .ok p) {model : String}
    (henters : q.Enters c.schema filtered model) : c.checkModel model = .ok () := by
  cases henters with
  | queried => exact checkModel_of_plan h
  | filter action given visits =>
    obtain ⟨row, visible, clause, hmodel, hclause⟩ := clause_of_plan h action
    exact checkModel_of_optionalClause hclause given (hmodel ▸ visits)
  | counted action dialect given visits =>
    obtain ⟨row, items, hmodel, hitems⟩ := aggregates_of_plan h action
    rw [planAggregates, if_pos dialect] at hitems
    obtain ⟨counts, hcounts, -⟩ := bind_eq_ok_iff.mp hitems
    obtain ⟨item, -, hitem⟩ := ok_of_mem_mapM hcounts given
    obtain ⟨clause, hclause, -⟩ := bind_eq_ok_iff.mp hitem
    exact checkModel_of_clauseOf hclause (hmodel ▸ visits)
  | included action reached =>
    obtain ⟨joins, computed, joined, parts⟩ := parts_of_plan h action
    exact checkModel_of_reached parts (checkModel_of_plan h) reached
  | includeFilter action reached nested resolved given visits =>
    obtain ⟨joins, computed, joined, parts⟩ := parts_of_plan h action
    exact checkModel_of_includeFilter parts reached nested resolved given visits
  | computed action given =>
    obtain ⟨joins, computed, joined, parts⟩ := parts_of_plan h action
    exact checkModel_of_computed parts given
  | connected action data entry resolved =>
    -- a statement of its own connects no rows
    have hnone : relationEntries _ = [] := relationEntries_of_plan data (connects_iff.mp action) h
    exact absurd (List.mem_filter.mpr ⟨entry, rfl⟩) (hnone ▸ List.not_mem_nil)

/-! ## Mutations -/

/-- A relation that rows are connected over has an accepted target. -/
theorem checkModel_of_connectable {model field : String} {relation : Relation}
    (h : connectable c model field = .ok relation) : c.checkModel relation.target = .ok () := by
  rw [connectable] at h
  split at h
  · cases h
  · split at h
    · rw [bind_eq_ok_iff] at h
      obtain ⟨_, hchecked, h⟩ := h
      obtain rfl := Except.ok.inj h
      exact hchecked
    · cases h

/-- The entries of a record that connect rows are over relations of the model with accepted
targets. -/
theorem checkModel_of_splitRecord {record row : DataRecord} {junctions : List JunctionWrite}
    (h : splitRecord c q.model record = .ok (row, junctions)) {entry : String × Datum}
    (hentry : entry ∈ relationEntries record) :
    ∃ relation, c.schema.relation? q.model entry.1 = some relation ∧
      c.checkModel relation.target = .ok () := by
  obtain ⟨-, hasks⟩ := asks_of_splitRecord h
  clear h
  generalize relationEntries record = entries at hasks hentry
  induction hasks with
  | nil => exact absurd hentry List.not_mem_nil
  | @cons first junction rest others hasked _ ih =>
    rcases List.mem_cons.mp hentry with rfl | hentry
    · obtain ⟨hrelation, -⟩ := relation?_of_connectable hasked.1
      exact ⟨junction.relation, hrelation, checkModel_of_connectable hasked.1⟩
    · exact ih hentry

/-- The models that enter the plan of a mutation are accepted. -/
theorem checkModel_of_enters_mutation {p : MutationPlan} (h : planMutation c filtered q = .ok p)
    {model : String} (henters : q.Enters c.schema filtered model) : c.checkModel model = .ok () := by
  cases mutated_of_planMutation h with
  | alone hmain => exact checkModel_of_enters hmain henters
  | @connected record row junctions main id writes hdata hsplit hsome haction hmain _ _ =>
    obtain ⟨rfl, hasks⟩ := asks_of_splitRecord hsplit
    have haccepted := checkModel_of_asks hasks hsome
    have hwrites := connects_iff.mp haction
    cases henters with
    | queried => exact haccepted
    | filter action given visits =>
      -- only an update has a filter, which is also that of the query of the row
      have hupdate : q.action = .update := hwrites.resolve_left fun hcreate => by
        rw [hcreate] at action
        cases action
      have hrow : (q.ofRow record).Enters c.schema filtered model := by
        rw [Query.ofRow]
        split
        · exact .filter rfl given visits
        · exact .filter action given visits
      exact checkModel_of_enters (plan_ofRow haccepted hmain) hrow
    | counted action => rcases hwrites with hkind | hkind <;> rw [hkind] at action <;> cases action
    | included action => rcases hwrites with hkind | hkind <;> rw [hkind] at action <;> cases action
    | includeFilter action =>
      rcases hwrites with hkind | hkind <;> rw [hkind] at action <;> cases action
    | computed action => rcases hwrites with hkind | hkind <;> rw [hkind] at action <;> cases action
    | connected action data entry resolved =>
      obtain rfl : record = _ := WriteData.one.inj (Option.some.inj (hdata.symm.trans data))
      obtain ⟨relation, hrelation, hchecked⟩ :=
        checkModel_of_splitRecord hsplit (List.mem_filter.mpr ⟨entry, rfl⟩)
      obtain rfl := Option.some.inj (hrelation.symm.trans resolved)
      exact hchecked

end Compile

/-! ## Compilers -/

namespace Compiler

open Compile

/-- The compiler with or without strict validation. -/
def withStrict (k : Compiler) (strict : Bool) : Compiler := { k with strict := some strict }

/-- Strict validation of a query by a compiler: it changes nothing but to refuse some models, and
what is handed out has no others in it. -/
structure Vets (k : Compiler) (q : Query) : Prop where
  statement : k.schema.Narrows ((k.withStrict true).statement q) ((k.withStrict false).statement q)
  mutation : k.schema.Narrows ((k.withStrict true).mutation q) ((k.withStrict false).mutation q)
  statement_vetted : ∀ s, (k.withStrict true).statement q = .ok s →
    ∀ model, q.Enters k.schema (k.dialect.has .filteredAggregates) model →
      k.schema.Knows model ∨ ¬ IsModelName model
  mutation_vetted : ∀ m, (k.withStrict true).mutation q = .ok m →
    ∀ model, q.Enters k.schema (k.dialect.has .filteredAggregates) model →
      k.schema.Knows model ∨ ¬ IsModelName model

/-- Strict validation only filters, and lets no model through that the schema does not know, if that
has the name of a model. -/
theorem vets (k : Compiler) (q : Query) : k.Vets q where
  statement := (Compile.narrows_plan _ q).map _
  mutation := (Compile.narrows_planMutation _ q).map _
  statement_vetted := by
    intro s hs model henters
    obtain ⟨p, hp, -⟩ := map_eq_ok_iff.mp hs
    exact (Compile.checkModel_eq_ok_iff rfl).mp (Compile.checkModel_of_enters hp henters)
  mutation_vetted := by
    intro m hm model henters
    obtain ⟨p, hp, -⟩ := map_eq_ok_iff.mp hm
    exact (Compile.checkModel_eq_ok_iff rfl).mp (Compile.checkModel_of_enters_mutation hp henters)

/-! ## What an action leaves out -/

/-- A compiler that knows of authors, but not of their posts. -/
def authors : Compiler :=
  { dialect := .postgres
    schema := ⟨[("User", { name := "User", table := "users", relations := [("posts",
      { name := "posts", cardinality := .oneToMany, target := "Post",
        foreignKey := "ownerId" })] })]⟩ }

/-- Counts authors, with the posts and the computed field that a read of them would return. -/
def countAuthors : Query :=
  { model := "User", action := .count
    arguments := { computed := [("ghosts", { op := .count, table := "Ghost" })] }
    selection := some { fields := [("posts", .flag true)] } }

/-- A count neither joins relations nor computes fields, so it is compiled where the models of these
are not known, though they have the names of models. -/
theorem statement_countAuthors :
    (authors.withStrict true).statement countAuthors =
        .ok { sql := "SELECT COUNT(*) FROM \"users\"", args := [], returnsRows := true } ∧
      (∃ field, ("ghosts", field) ∈ countAuthors.arguments.computed ∧
        ¬ (authors.schema.Knows field.table ∨ ¬ IsModelName field.table)) ∧
      ∃ relation, authors.schema.relation? "User" "posts" = some relation ∧
        ¬ (authors.schema.Knows relation.target ∨ ¬ IsModelName relation.target) := by
  have hunknown {name : String} (hname : looksLikeModel name = true)
      (h : (authors.schema.isRegistered name || (authors.schema.findByTable? name).isSome) = false) :
      ¬ (authors.schema.Knows name ∨ ¬ IsModelName name) := by
    rw [knows_iff, h, ← looksLikeModel_iff, hname]
    decide
  exact ⟨rfl, ⟨_, List.mem_singleton.mpr rfl, hunknown (by decide) (by decide)⟩,
    _, rfl, hunknown (by decide) (by decide)⟩

end Compiler

end RelationalQuery
