import RelationalQuery.Proofs.Compile.FilterTruth
import RelationalQuery.Proofs.Compile.Selected

/-!
# Tables that are named apart

Aliases of subqueries start with `sub_`. Where no join table of a schema does, the tables of every
subquery in the conditions of a statement have different names.

## Shape of the proof

`Condition.sources` lists the `FROM`s of all subqueries in a condition, at whatever depth, and each of
them is `Introduced` for a relation of the schema. It has two names only over a join table. Either
both of them are drawn, one after the other, or the join table keeps its own name, and that may be the
name that is drawn for the target (`Introduced.nodup_iff`).
-/

namespace RelationalQuery

open Sql Compile

/-! ## Subqueries of conditions -/

namespace Sql.Condition

mutual

/-- What the subqueries of a condition read, those inside of others included. -/
def sources : Condition → List Source
  | isNull _ _ => []
  | compare _ _ _ => []
  | member _ _ _ => []
  | junction _ clauses => clausesSources clauses
  | negation clause => allSources clause
  | subquery _ source _ _ conditions => source :: allSources conditions

/-- What the subqueries of conditions read. -/
def allSources : List Condition → List Source
  | [] => []
  | condition :: rest => condition.sources ++ allSources rest

/-- What the subqueries of clauses read. -/
def clausesSources : List (List Condition) → List Source
  | [] => []
  | clause :: rest => allSources clause ++ clausesSources rest

end

theorem allSources_append (a b : Clause) : allSources (a ++ b) = allSources a ++ allSources b := by
  induction a with
  | nil => rfl
  | cons condition a ih =>
    rw [List.cons_append, allSources, allSources, ih, List.append_assoc]

/-- Clauses are combined with their subqueries. -/
theorem allSources_combined (connective : Connective) (clauses : List Clause) :
    allSources (combined connective clauses) = clausesSources clauses := by
  cases connective with
  | all => exact List.append_nil _
  | any => exact List.append_nil _
  | not =>
    induction clauses with
    | nil => rfl
    | cons clause clauses ih => exact congrArg (allSources clause ++ ·) ih

/-- A quantified clause stands in one subquery more. -/
theorem sources_quantified (quantifier : Quantifier) (entry : Entry) (clause : Clause) :
    (quantified quantifier entry clause).sources = entry.source :: allSources clause := by
  cases quantifier with
  | some => rfl
  | none => rfl
  | every => exact congrArg (entry.source :: ·) (List.append_nil _)

end Sql.Condition

/-! ## Join tables that are named like aliases -/

/-- Whether the join tables of a schema have other names than those that are drawn for subqueries. -/
def Schema.JoinTablesApart (s : Schema) : Prop :=
  ∀ model field relation table, s.relation? model field = some relation →
    relation.joinTable = some table → ¬ "sub_".toList <+: table.toList

/-- Join tables are named apart if those of all declared relations are. -/
theorem Schema.joinTablesApart_of_declared {s : Schema}
    (h : ∀ model ∈ s.models, ∀ entry ∈ model.2.relations, ∀ table ∈ entry.2.joinTable,
      ¬ "sub_".toList <+: table.toList) : s.JoinTablesApart := by
  intro model field relation table hfound htable
  obtain ⟨m, hmodel, hrelation⟩ := Option.bind_eq_some_iff.mp hfound
  exact h _ (Dict.mem_of_get? hmodel) _ (Dict.mem_of_get? hrelation) table htable

/-- Whether a subquery joins the table of a relation, under its own name, to a target under an alias
that is just that name. -/
inductive Schema.NamesItself (s : Schema) : Source → Prop
  | intro {model field table target : String} {relation : Relation} {left right : Column}
    (found : s.relation? model field = some relation) (joinTable : relation.joinTable = some table)
    (drawn : ("sub_" ++ field).toList <+: table.toList) :
    s.NamesItself (.linked ⟨table, none⟩ ⟨target, some table⟩ left right)

/-- Two tables that go by one name do not go by different ones. -/
theorem Schema.NamesItself.not_nodup {s : Schema} {source : Source} (h : s.NamesItself source) :
    ¬ source.names.Nodup := by
  cases h with
  | intro => exact fun hnodup => (List.nodup_cons.mp hnodup).1 (List.mem_singleton.mpr rfl)

/-- Join tables that are named apart never go by the name of their target. -/
theorem Schema.JoinTablesApart.not_namesItself {s : Schema} {source : Source}
    (h : s.JoinTablesApart) : ¬ s.NamesItself source := by
  rintro ⟨found, joinTable, drawn⟩
  rw [String.toList_append] at drawn
  exact h _ _ _ _ found joinTable ((List.prefix_append _ _).trans drawn)

namespace Compile

variable {c : Context}

/-- Whether the tables of a subquery are introduced for a relation of the schema, in some scope and
beside some names. -/
inductive Introduced (c : Context) : Source → Prop
  | intro {scope : Scope} {field : String} {relation : Relation} {entry : Entry}
    {used after : List String} (found : c.schema.relation? scope.row.model field = some relation)
    (entered : Entered c scope field relation used entry after) : Introduced c entry.source

/-- The tables of a subquery have different names, but for a join table that is named like the alias
of its target. -/
theorem Introduced.nodup_iff {source : Source} (h : Introduced c source) :
    source.names.Nodup ↔ ¬ c.schema.NamesItself source := by
  have hpair {a b : String} (hne : a ≠ b) : [a, b].Nodup := by simpa using hne
  have halone (a : String) : [a].Nodup := by simp
  refine ⟨fun hnodup hitself => hitself.not_nodup hnodup, fun hapart => ?_⟩
  cases h with
  | @intro scope field relation entry used after found entered =>
  cases entered with
  | linkedAliased link seen =>
    -- the second name is drawn when the first one counts as used
    have hfresh : joinTableAlias used field ∉ targetAlias used field :: used :=
      freshName_notMem _ _
    have hne : joinTableAlias used field ≠ targetAlias used field :=
      fun hsame => hfresh (hsame ▸ List.mem_cons_self)
    exact hpair hne
  | @linked table ownId ownColumn targetColumn targetId link unseen =>
    refine hpair fun hsame => hapart ?_
    have htable : table = targetAlias used field := hsame
    have hdrawn : ("sub_" ++ field).toList <+: (targetAlias used field).toList :=
      prefix_freshName used _
    have hjoin := (joinTable_of_junction link).2
    rw [Entry.linked, Occurrence.aliased, ← htable]
    exact .intro found hjoin (htable ▸ hdrawn)
  | singleAliased link seen => exact halone _
  | single link outermost unseen => exact halone _

/-! ## Subqueries of filters -/

theorem allSources_eq_nil {clause : Clause} (h : ∀ condition ∈ clause, condition.sources = []) :
    Condition.allSources clause = [] := by
  induction clause with
  | nil => rfl
  | cons condition clause ih =>
    rw [List.forall_mem_cons] at h
    rw [Condition.allSources, h.1, ih h.2, List.nil_append]

/-- Comparisons have no subqueries. -/
theorem Comparative.sources {column : Column} {condition : Condition}
    (h : Comparative column condition) : condition.sources = [] := by
  induction h with
  | single compared => cases compared <;> rfl
  | negation parts ih => exact allSources_eq_nil ih

mutual

/-- The subqueries in the conditions of a filter are introduced for relations. -/
theorem introduced_conditions (scope : Scope) :
    (filter : List (String × Criterion)) → {clause : Clause} → {used after : List String} →
    conditions c scope filter used = .ok (clause, after) →
    ∀ source ∈ Condition.allSources clause, Introduced c source
  | [], clause, used, after, h => by
    obtain ⟨rfl, rfl⟩ := conditions_nil_eq_ok h
    exact List.forall_mem_nil _
  | (key, criterion) :: rest, clause, used, after, h => by
    obtain ⟨here, others, between, hhere, hothers, rfl⟩ := conditions_cons_eq_ok h
    rw [Condition.allSources_append, List.forall_mem_append]
    exact ⟨introduced_criterionConditions scope key criterion hhere,
      introduced_conditions scope rest hothers⟩

/-- The subqueries in the conditions of one entry of a filter are introduced for relations. -/
theorem introduced_criterionConditions (scope : Scope) (key : String) :
    (criterion : Criterion) → {clause : Clause} → {used after : List String} →
    criterionConditions c scope key criterion used = .ok (clause, after) →
    ∀ source ∈ Condition.allSources clause, Introduced c source
  | .literal value, clause, used, after, h => by
    obtain ⟨-, rfl, -⟩ := literal_eq_ok h
    rw [Condition.allSources, (comparative_equals _ value).sources]
    exact List.forall_mem_nil _
  | .comparison operators, clause, used, after, h => by
    obtain ⟨-, hcomparisons, -⟩ := comparison_eq_ok h
    rw [allSources_eq_nil fun condition hcondition =>
      (comparative_comparisons hcomparisons condition hcondition).sources]
    exact List.forall_mem_nil _
  | .logical connective operands, clause, used, after, h => by
    obtain ⟨-, parts, hparts, rfl⟩ := logical_eq_ok h
    rw [Condition.allSources_combined]
    exact introduced_clauses scope operands hparts
  | .related quantifier nested, clause, used, after, h => by
    obtain ⟨relation, entry, between, inner, hquantifiable, -, henter, hinner, rfl⟩ :=
      related_eq_ok h
    have hfound := relation?_of_quantifiable hquantifiable
    rw [Condition.allSources, Condition.sources_quantified, Condition.allSources, List.append_nil,
      List.forall_mem_cons]
    exact ⟨.intro hfound (entered_of_enter henter), introduced_conditions _ nested hinner⟩

/-- The subqueries in the clauses of filters are introduced for relations. -/
theorem introduced_clauses (scope : Scope) :
    (filters : List (List (String × Criterion))) → {parts : List Clause} →
    {used after : List String} → clauses c scope filters used = .ok (parts, after) →
    ∀ source ∈ Condition.clausesSources parts, Introduced c source
  | [], parts, used, after, h => by
    obtain ⟨rfl, rfl⟩ := clauses_nil_eq_ok h
    exact List.forall_mem_nil _
  | filter :: rest, parts, used, after, h => by
    obtain ⟨clause, others, between, hclause, hothers, rfl⟩ := clauses_cons_eq_ok h
    rw [Condition.clausesSources, List.forall_mem_append]
    exact ⟨introduced_conditions scope filter hclause, introduced_clauses scope rest hothers⟩

end

/-- All subqueries of a filter, if there is one, are introduced for relations. -/
theorem introduced_optionalClause {row : Occurrence} {visible : List String}
    {filter : Option Filter} {clause : Clause}
    (h : optionalClause c row visible filter = .ok clause) :
    ∀ source ∈ Condition.allSources clause, Introduced c source := by
  cases filter with
  | none =>
    obtain rfl := Except.ok.inj h
    exact List.forall_mem_nil _
  | some given =>
    rw [optionalClause, clauseOf] at h
    obtain ⟨⟨clause, after⟩, hconditions, rfl⟩ := map_eq_ok_iff.mp h
    exact introduced_conditions _ given hconditions

end Compile

end RelationalQuery
