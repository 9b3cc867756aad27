import RelationalQuery.Proofs.Compile.Dialects
import RelationalQuery.Proofs.Compile.Generated
import RelationalQuery.Proofs.Sql.Binding
import RelationalQuery.Proofs.Sql.Placeholders

/-!
# What statements bind

`Plan.bound` lists the values of a plan group by group, by where they stand in its tree. Every
statement that a compiler hands out is that of a plan it `Issues`, and where placeholders are
numbered its arguments are the values of the groups one after the other: what is written, what the
rows are asked for, then filtered counts, computed fields and joined rows.

An id that is bound later changes the plan of a statement and not its shape, so that the statements
after it are covered as well.
-/

namespace RelationalQuery

open Sql

namespace Fragment

/-- The values of a group, in the order of the text. -/
def valuesOf (group : ParamGroup) (params : List (ParamGroup × Value)) : List Value :=
  (params.filter (·.1 = group)).map Prod.snd

variable (group : ParamGroup)

@[simp] theorem valuesOf_append (a b : List (ParamGroup × Value)) :
    valuesOf group (a ++ b) = valuesOf group a ++ valuesOf group b := by
  simp only [valuesOf, List.filter_append, List.map_append]

@[simp] theorem valuesOf_map (other : ParamGroup) (values : List Value) :
    valuesOf group (values.map (other, ·)) = if other = group then values else [] := by
  rw [valuesOf, List.filter_map, List.map_map]
  split
  · next heq =>
    have hall : (fun param : ParamGroup × Value => decide (param.1 = group)) ∘ (other, ·) =
        fun _ => true := funext fun _ => decide_eq_true heq
    rw [hall, List.filter_true]
    exact List.map_id values
  · next hne =>
    have hnone : (fun param : ParamGroup × Value => decide (param.1 = group)) ∘ (other, ·) =
        fun _ => false := funext fun _ => decide_eq_false hne
    rw [hnone, List.filter_false]
    rfl

@[simp] theorem valuesOf_flatMap {α : Type} (f : α → List (ParamGroup × Value)) (entries : List α) :
    valuesOf group (entries.flatMap f) = entries.flatMap fun entry => valuesOf group (f entry) := by
  induction entries with
  | nil => rfl
  | cons entry entries ih => rw [List.flatMap_cons, valuesOf_append, ih, List.flatMap_cons]

end Fragment

open Fragment

/-! ## Trees -/

namespace Sql

/-- The values of a read in a group are those that stand in its places. -/
theorem Select.valuesOf_fragment (d : Dialect) (s : Select) (group : ParamGroup) :
    valuesOf group (s.fragment d).params = s.bound group := by
  rw [Select.params_eq]
  cases group <;> simp [Select.bound]

/-- The values of a write in a group are those that stand in its places. -/
theorem Write.valuesOf_fragment (d : Dialect) (w : Write) (group : ParamGroup) :
    valuesOf group (w.fragment d).params = w.bound group := by
  rw [Write.params_eq]
  cases group <;> simp [Write.bound]

/-- The write of a join table for the row with another id. -/
def Write.withOwn (id : Value) : Write → Write
  | .connect table ownColumn targetColumn _ target =>
    .connect table ownColumn targetColumn id target
  | .disconnect table ownColumn targetColumn _ target =>
    .disconnect table ownColumn targetColumn id target
  | other => other

end Sql

namespace Compile

/-- The values of a plan that belong to a group. -/
def Plan.bound : Plan → ParamGroup → List Value
  | .read r => r.select.bound
  | .write w => w.bound

/-- The values of a plan in a group are those that stand in its places. -/
theorem Plan.valuesOf_fragment (d : Dialect) (p : Plan) (group : ParamGroup) :
    valuesOf group (p.fragment d).params = p.bound group := by
  cases p with
  | read r => exact r.select.valuesOf_fragment d group
  | write w => exact w.valuesOf_fragment d group

/-- The statement of a plan is its rendered tree. -/
theorem Plan.render_fragment (d : Dialect) (p : Plan) :
    (p.fragment d).render d = ((p.statement d).sql, (p.statement d).args) := by
  cases p <;> rfl

/-- The arguments of a plan are those of its tree. -/
theorem Plan.args_eq (d : Dialect) (p : Plan) :
    (p.statement d).args = arguments d.isNumbered (p.fragment d).params := by
  cases p with
  | read r => exact args_ofFragment d true _
  | write w => exact args_ofFragment d (w.returnsRows d) _

/-- In every dialect the arguments are the values of the groups, in some order. -/
theorem Plan.args_perm (d : Dialect) (p : Plan) :
    (p.statement d).args.Perm (ParamGroup.ordered.flatMap p.bound) := by
  have hgroups : arguments true (p.fragment d).params = ParamGroup.ordered.flatMap p.bound :=
    List.flatMap_congr fun group _ => p.valuesOf_fragment d group
  rw [p.args_eq, ← hgroups]
  exact (arguments_perm _ _).trans (arguments_perm _ _).symm

/-- Numbered arguments are the values of the groups one after the other. -/
theorem Plan.args_statement {d : Dialect} (hd : d.isNumbered) (p : Plan) :
    (p.statement d).args = ParamGroup.ordered.flatMap p.bound := by
  calc (p.statement d).args
    _ = arguments d.isNumbered (p.fragment d).params := p.args_eq d
    _ = ParamGroup.ordered.flatMap fun group => valuesOf group (p.fragment d).params := by
      rw [hd]
      rfl
    _ = _ := List.flatMap_congr fun group _ => p.valuesOf_fragment d group

end Compile

/-! ## Compilers -/

namespace Compiler

variable {k : Compiler} {q : Query} {s : Statement}

/-- The plans of the statements that a compiler hands out for a query: those that it makes, and the
writes of join tables after an id is bound. -/
inductive Issues (k : Compiler) (q : Query) : Compile.Plan → Prop
  | planned {p : Compile.Plan} (h : k.Plans q p) : Issues k q p
  | bound {m : Compile.MutationPlan} {w : Sql.Write}
    (h : Compile.planMutation k.context (k.dialect.has .filteredAggregates) q = .ok m)
    (hw : w ∈ m.junctions) (id : Value) : Issues k q (.write (w.withOwn id))

/-- The statement that binds an id later is that of the write with the id. -/
theorem statement_withOwn {c : Compile.Context} {filtered : Bool} {m : Compile.MutationPlan}
    {w : Sql.Write} (h : Compile.planMutation c filtered q = .ok m) (hw : w ∈ m.junctions)
    (d : Dialect) (id : Value) : (w.withOwn id).statement d = (w.statement d).withFirstArg id := by
  obtain ⟨other, change, relation, table, -, -, -, rfl⟩ := exists_writtenBy_of_mem_junctions h hw
  have hown : (change.write c q.model other relation table).withOwn id =
      change.write c q.model id relation table := by
    obtain ⟨field, target, disconnects⟩ := change
    cases disconnects <;> rfl
  rw [hown, withFirstArg_write]

/-- Every statement that a compiler hands out is that of a plan. -/
theorem exists_issues_of_handsOut (h : k.HandsOut q s) :
    ∃ p, k.Issues q p ∧ s = p.statement k.dialect := by
  cases h with
  | statement h =>
    obtain ⟨p, hplan, rfl⟩ := map_eq_ok_iff.mp h
    exact ⟨p, .planned (.statement hplan), rfl⟩
  | main h =>
    obtain ⟨m, hplan, rfl⟩ := map_eq_ok_iff.mp h
    exact ⟨m.main, .planned (.main hplan), rfl⟩
  | relation h hs =>
    obtain ⟨m, hplan, rfl⟩ := map_eq_ok_iff.mp h
    obtain ⟨w, hw, rfl⟩ := List.mem_map.mp hs
    exact ⟨.write w, .planned (.relation hplan hw), rfl⟩
  | bound h id hs =>
    obtain ⟨m, hplan, rfl⟩ := map_eq_ok_iff.mp h
    obtain ⟨unbound, hunbound, rfl⟩ := List.mem_map.mp hs
    obtain ⟨w, hw, rfl⟩ := List.mem_map.mp hunbound
    exact ⟨.write (w.withOwn id), .bound hplan hw id, (statement_withOwn hplan hw _ id).symm⟩

/-- Every value is bound by its own placeholder. A fragment `Binds` its values in every dialect, and
with its arguments put in place of the placeholders it reads the same with numbers as without. The
arguments of a statement with numbers are the values of its groups, one group after the other. -/
theorem bound_in_place :
    (∀ (d : Dialect) (f : Fragment), f.Binds d) ∧
      (∀ (d d' : Dialect) (f : Fragment) (write : Value → String),
        (∀ identifier, .name identifier ∈ f → d.quote identifier = d'.quote identifier) →
          f.filled d write = f.filled d' write) ∧
      ∀ (k : Compiler) (q : Query) (s : Statement), k.HandsOut q s →
        ∃ p, k.Issues q p ∧ s = p.statement k.dialect ∧
          (p.fragment k.dialect).render k.dialect = (s.sql, s.args) ∧
          (k.dialect = .postgres → s.args =
            p.bound .data ++ p.bound .condition ++ p.bound .filter ++ p.bound .computed ++
              p.bound .join) := by
  refine ⟨binds, fun d d' f write hnames => ?_, fun k q s hs => ?_⟩
  · rw [(binds d f).filled, (binds d' f).filled, spelled_congr write hnames]
  · obtain ⟨p, hissues, rfl⟩ := exists_issues_of_handsOut hs
    refine ⟨p, hissues, rfl, p.render_fragment k.dialect, fun hd => ?_⟩
    have hnumbered : k.dialect.isNumbered := by rw [hd]; rfl
    rw [p.args_statement hnumbered]
    simp only [ParamGroup.ordered, List.flatMap_cons, List.flatMap_nil, List.append_nil,
      List.append_assoc]

/-- A filtered count is written before the conditions on the rows and bound after them. -/
theorem bound_in_place_countUsers :
    ∃ s, ({ dialect := .postgres } : Compiler).statement (countUsers (.text "ann")) = .ok s ∧
      s.sql = "SELECT COUNT(*) AS \"_count\", COUNT(*) FILTER (WHERE \"age\" >= $2) AS \"grown\" " ++
        "FROM \"users\" WHERE \"name\" ILIKE $1" ∧
      ∃ p : Compile.Plan, s.args =
        p.bound .data ++ p.bound .condition ++ p.bound .filter ++ p.bound .computed ++
          p.bound .join := by
  obtain ⟨s, hs, hsql⟩ : ∃ s,
      ({ dialect := .postgres } : Compiler).statement (countUsers (.text "ann")) = .ok s ∧
        s.sql = "SELECT COUNT(*) AS \"_count\", COUNT(*) FILTER (WHERE \"age\" >= $2) AS \"grown\" " ++
          "FROM \"users\" WHERE \"name\" ILIKE $1" := ⟨_, rfl, rfl⟩
  obtain ⟨p, -, -, -, hargs⟩ := bound_in_place.2.2 _ _ s (.statement hs)
  exact ⟨s, hs, hsql, p, hargs rfl⟩

end Compiler

end RelationalQuery
