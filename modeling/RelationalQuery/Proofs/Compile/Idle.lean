import RelationalQuery.Compiler
import RelationalQuery.Proofs.Compile.Conditions
import RelationalQuery.Proofs.Compile.Where

/-!
# Entries without conditions

An update or a delete has a `WHERE` if its filter comes to any condition at all. Without one it is
about every row of the table, so an entry of a filter that comes to no condition is an entry that is
lost. `hasWhere_iff` says which these are: a comparison without operators, and a negation of no
filters. All others, at any depth, come to one condition or more.
-/

namespace RelationalQuery

/-- Whether a criterion asks for nothing: it compares with nothing, or negates no filters. -/
def Criterion.IsIdle : Criterion → Prop
  | comparison operators => operators = []
  | logical .not operands => operands = []
  | _ => False

namespace Compile

open Sql Fragment

variable {c : Context} {q : Query} {d : Dialect} {scope : Scope} {key : String} {clause : Clause}
  {used after : List String}

/-! ## Conditions -/

/-- Comparisons come to one condition each. -/
theorem length_eachComparison {column : Column} {field : String} {operators : Dict Value}
    (h : eachComparison column field operators = .ok clause) :
    clause.length = operators.length := by
  induction operators generalizing clause with
  | nil =>
    rw [eachComparison] at h
    obtain rfl := Except.ok.inj h
    rfl
  | cons operator rest ih =>
    rw [eachComparison, bind_eq_ok_iff] at h
    obtain ⟨condition, -, h⟩ := h
    rw [bind_eq_ok_iff] at h
    obtain ⟨others, hothers, h⟩ := h
    obtain rfl := Except.ok.inj h
    rw [List.length_cons, List.length_cons, ih hothers]

theorem length_comparisons {column : Column} {field : String} {operators : Dict Value}
    (h : comparisons column field operators = .ok clause) : clause.length = operators.length := by
  rw [comparisons] at h
  split at h
  · exact length_eachComparison h
  · cases h

/-- Filters come to one clause each. -/
theorem length_clauses {filters : List (List (String × Criterion))} {parts : List Clause}
    (h : clauses c scope filters used = .ok (parts, after)) : parts.length = filters.length := by
  induction filters generalizing parts used with
  | nil =>
    obtain ⟨rfl, -⟩ := clauses_nil_eq_ok h
    rfl
  | cons filter rest ih =>
    obtain ⟨clause, others, between, -, hothers, rfl⟩ := clauses_cons_eq_ok h
    rw [List.length_cons, List.length_cons, ih hothers]

/-- Lists of the same length are empty together. -/
theorem eq_nil_iff_of_length_eq {α β : Type} {as : List α} {bs : List β}
    (h : as.length = bs.length) : as = [] ↔ bs = [] := by
  rw [← List.length_eq_zero_iff, h, List.length_eq_zero_iff]

/-- An entry comes to no condition if and only if it is idle, wherever it stands. -/
theorem criterionConditions_eq_nil_iff {criterion : Criterion}
    (h : criterionConditions c scope key criterion used = .ok (clause, after)) :
    clause = [] ↔ criterion.IsIdle := by
  cases criterion with
  | literal value =>
    obtain ⟨-, rfl, -⟩ := literal_eq_ok h
    exact iff_of_false (List.cons_ne_nil _ _) id
  | comparison operators =>
    obtain ⟨-, hcomparisons, -⟩ := comparison_eq_ok h
    exact eq_nil_iff_of_length_eq (length_comparisons hcomparisons)
  | logical connective operands =>
    obtain ⟨-, parts, hparts, rfl⟩ := logical_eq_ok h
    cases connective with
    | all => exact iff_of_false (List.cons_ne_nil _ _) id
    | any => exact iff_of_false (List.cons_ne_nil _ _) id
    | not =>
      -- each filter becomes a negation of its own
      show parts.map Condition.negation = [] ↔ operands = []
      rw [List.map_eq_nil_iff]
      exact eq_nil_iff_of_length_eq (length_clauses hparts)
  | related quantifier nested =>
    obtain ⟨relation, entry, between, inner, -, -, -, -, rfl⟩ := related_eq_ok h
    exact iff_of_false (List.cons_ne_nil _ _) id

/-- A filter comes to no condition if and only if all of its entries are idle. -/
theorem conditions_eq_nil_iff {filter : List (String × Criterion)}
    (h : conditions c scope filter used = .ok (clause, after)) :
    clause = [] ↔ ∀ entry ∈ filter, entry.2.IsIdle := by
  induction filter generalizing clause used with
  | nil =>
    obtain ⟨rfl, -⟩ := conditions_nil_eq_ok h
    exact iff_of_true rfl fun entry hentry => absurd hentry List.not_mem_nil
  | cons entry rest ih =>
    obtain ⟨here, others, between, hhere, hothers, rfl⟩ := conditions_cons_eq_ok h
    rw [List.append_eq_nil_iff, criterionConditions_eq_nil_iff hhere, ih hothers,
      List.forall_mem_cons]

/-- The clause of a filter is empty if and only if all of its entries are idle. -/
theorem eq_nil_iff_of_filters {model : String} {given : Filter} {tables : List Table}
    (h : Filters c model (some given) tables clause) :
    clause = [] ↔ ∀ entry ∈ given, entry.2.IsIdle := by
  cases h with
  | intro model_row table nodup alone planned =>
    rw [optionalClause, clauseOf] at planned
    obtain ⟨⟨clause, after⟩, hconditions, rfl⟩ := map_eq_ok_iff.mp planned
    exact conditions_eq_nil_iff hconditions

/-! ## Text -/

/-- A piece of joined fragments is one of theirs, or stands between them. -/
theorem mem_join {separator : String} {fragments : List Fragment} {piece : Piece}
    (h : piece ∈ Fragment.join separator fragments) :
    piece = .text separator ∨ ∃ f ∈ fragments, piece ∈ f := by
  induction fragments with
  | nil => exact absurd h List.not_mem_nil
  | cons first rest ih =>
    cases rest with
    | nil => exact Or.inr ⟨first, List.mem_cons_self, h⟩
    | cons second rest =>
      rw [Fragment.join, List.mem_append, List.mem_cons] at h
      rcases h with h | h | h
      · exact Or.inr ⟨first, List.mem_cons_self, h⟩
      · exact Or.inl h
      · refine (ih h).imp_right ?_
        rintro ⟨f, hf, hpiece⟩
        exact ⟨f, List.mem_cons_of_mem first hf, hpiece⟩
      · exact List.cons_ne_nil second rest

/-- What is set is written without a `WHERE`. -/
theorem where_notMem_assignments (assignments : Assignments) :
    .text " WHERE " ∉ assignmentsFragment assignments := by
  intro h
  rw [assignmentsFragment] at h
  rcases mem_join h with h | ⟨f, hf, h⟩
  · exact absurd (Piece.text.inj h) (by decide)
  · obtain ⟨assignment, -, rfl⟩ := List.mem_map.mp hf
    simp [ofText, ofName, ofParam] at h

/-- The conditions of a statement begin with a `WHERE`, if there are any. -/
theorem where_mem_whereFragment_iff : .text " WHERE " ∈ clause.whereFragment d ↔ clause ≠ [] := by
  rw [Clause.whereFragment]
  cases clause with
  | nil => exact iff_of_false List.not_mem_nil fun h => h rfl
  | cons condition rest =>
    exact iff_of_true (List.mem_append_left _ List.mem_cons_self) (List.cons_ne_nil _ _)

/-- An update is written with a `WHERE` if and only if it has conditions. -/
theorem where_mem_update_iff {table : String} {assignments : Assignments} {returned : Bool} :
    .text " WHERE " ∈ (Sql.Write.update table assignments clause returned).fragment d ↔
      clause ≠ [] := by
  have hassignments := where_notMem_assignments assignments
  rw [Sql.Write.fragment, Sql.Write.body, ← where_mem_whereFragment_iff (d := d)]
  simp [ofText, ofName, hassignments]

/-- A delete is written with a `WHERE` if and only if it has conditions. -/
theorem where_mem_delete_iff {table : String} :
    .text " WHERE " ∈ (Sql.Write.delete table clause).fragment d ↔ clause ≠ [] := by
  rw [Sql.Write.fragment, Sql.Write.body, ← where_mem_whereFragment_iff (d := d)]
  simp [ofText, ofName, Sql.Write.returnsRows]

/-! ## Statements -/

/-- Whether an action changes or deletes the rows that its filter asks for. -/
def narrows : Action → Bool
  | .update | .updateMany | .delete | .deleteMany => true
  | _ => false

/-- Updates and deletes are planned as a write with a clause, and have a `WHERE` if the clause is not
empty. -/
theorem exists_of_narrows {filtered : Bool} {p : Plan} (hplan : plan c filtered q = .ok p)
    (hnarrows : narrows q.action) :
    ∃ w tables clause, p = .write w ∧ p.where? = some (tables, clause) ∧
      (.text " WHERE " ∈ w.fragment d ↔ clause ≠ []) := by
  rw [plan, bind_eq_ok_iff] at hplan
  obtain ⟨-, -, hplan⟩ := hplan
  have hupdate {returned : Bool} (h : Plan.write <$> planUpdate c q returned = .ok p) :
      ∃ w tables clause, p = .write w ∧ p.where? = some (tables, clause) ∧
        (.text " WHERE " ∈ w.fragment d ↔ clause ≠ []) := by
    obtain ⟨w, hw, rfl⟩ := map_eq_ok_iff.mp h
    obtain ⟨assignments, clause, -, rfl⟩ := exists_of_planUpdate hw
    exact ⟨_, _, clause, rfl, rfl, where_mem_update_iff⟩
  have hdelete (h : Plan.write <$> planDelete c q = .ok p) :
      ∃ w tables clause, p = .write w ∧ p.where? = some (tables, clause) ∧
        (.text " WHERE " ∈ w.fragment d ↔ clause ≠ []) := by
    obtain ⟨w, hw, rfl⟩ := map_eq_ok_iff.mp h
    obtain ⟨clause, -, rfl⟩ := exists_of_planDelete hw
    exact ⟨_, _, clause, rfl, rfl, where_mem_delete_iff⟩
  cases haction : q.action with
  | update => rw [haction] at hplan; exact hupdate hplan
  | updateMany => rw [haction] at hplan; exact hupdate hplan
  | delete => rw [haction] at hplan; exact hdelete hplan
  | deleteMany => rw [haction] at hplan; exact hdelete hplan
  | _ => rw [haction] at hnarrows; cases hnarrows

/-- The statement of an update or a delete has a `WHERE` if and only if some entry of the filter is
not idle. The entries that come to no condition are the idle ones, at every depth of a filter. -/
theorem hasWhere_iff {k : Compiler} {s : Statement} (hs : k.statement q = .ok s)
    (hnarrows : narrows q.action) {given : Filter} (hgiven : q.arguments.filter = some given) :
    (∃ w, plan k.context (k.dialect.has .filteredAggregates) q = .ok (.write w) ∧
      s = w.statement k.dialect ∧
      (.text " WHERE " ∈ w.fragment k.dialect ↔ ∃ entry ∈ given, ¬ entry.2.IsIdle)) ∧
    ∀ (scope : Scope) (key : String) (criterion : Criterion) (used : List String) (clause : Clause)
      (after : List String),
      criterionConditions k.context scope key criterion used = .ok (clause, after) →
        (clause = [] ↔ criterion.IsIdle) := by
  refine ⟨?_, fun scope key criterion used clause after h => criterionConditions_eq_nil_iff h⟩
  rw [Compiler.statement, map_eq_ok_iff] at hs
  obtain ⟨p, hplan, rfl⟩ := hs
  obtain ⟨w, tables, clause, rfl, hwhere, hwritten⟩ :=
    exists_of_narrows (d := k.dialect) hplan hnarrows
  have hfilters := filters_of_planned (planned_of_plan hplan) hwhere
  rw [hgiven] at hfilters
  refine ⟨w, hplan, rfl, ?_⟩
  rw [hwritten, Ne, eq_nil_iff_of_filters hfilters, Classical.not_forall]
  exact exists_congr fun entry => Classical.not_imp

/-! ## A delete that loses its filter -/

/-- A compiler that knows of users. -/
def users : Compiler :=
  { dialect := .postgres, schema := ⟨[("User", { name := "User", table := "users" })]⟩ }

/-- Deletes the users that pass a filter. -/
def deleteUsers (given : Filter) : Query :=
  { model := "User", action := .deleteMany, arguments := { filter := some given } }

/-- An idle entry beside another one does not take the `WHERE` away. -/
theorem hasWhere_deleteUsers :
    ∃ s, users.statement
        (deleteUsers [("name", .comparison []), ("id", .literal (.int 1))]) = .ok s ∧
      ∃ w, s = Sql.Write.statement .postgres w ∧ .text " WHERE " ∈ w.fragment .postgres := by
  have hs : users.statement
      (deleteUsers [("name", .comparison []), ("id", .literal (.int 1))]) = .ok _ := rfl
  obtain ⟨w, -, hstatement, hwhere⟩ := (hasWhere_iff hs rfl rfl).1
  refine ⟨_, hs, w, hstatement, hwhere.mpr ⟨("id", .literal (.int 1)), ?_, id⟩⟩
  exact List.mem_cons_of_mem _ List.mem_cons_self

/-- With idle entries alone all users are deleted: a comparison without operators, or a negation of
no filters. -/
theorem statement_deleteUsers :
    users.statement (deleteUsers [("name", .comparison [])]) =
        .ok { sql := "DELETE FROM \"users\"", args := [] } ∧
      users.statement (deleteUsers [("NOT", .logical .not [])]) =
        .ok { sql := "DELETE FROM \"users\"", args := [] } :=
  ⟨rfl, rfl⟩

end Compile

end RelationalQuery
