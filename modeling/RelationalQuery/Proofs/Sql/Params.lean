import RelationalQuery.Proofs.Sql.Rendering
import RelationalQuery.Sql.Select
import RelationalQuery.Sql.Write

/-!
# The values of trees

The dialects write a tree in different words, but with the same values in the same order of the
text. So what is bound for a tree is decided by the tree, up to the order of the arguments.

`values` lists the values of a part of a tree, and `bound` those of a whole tree that belong to a
group: which ones these are is a matter of where they stand in the tree.

## Shape of the lemmas

For each kind of tree a lemma `params_fragment` says which values its fragment has, whatever the
dialect. What holds no values is a `simp` lemma.
-/

namespace RelationalQuery

namespace Fragment

@[simp] theorem params_ofText (words : String) : (ofText words).params = [] := rfl

@[simp] theorem params_ofName (identifier : String) : (ofName identifier).params = [] := rfl

@[simp] theorem params_ofParam (group : ParamGroup) (value : Value) :
    (ofParam group value).params = [(group, value)] := rfl

@[simp] theorem params_wrap (opening closing : String) (inner : Fragment) :
    (wrap opening inner closing).params = inner.params := by
  rw [wrap, params, params_append]
  exact List.append_nil _

@[simp] theorem params_join (separator : String) (fs : List Fragment) :
    (join separator fs).params = fs.flatMap params := by
  induction fs with
  | nil => rfl
  | cons first rest ih =>
    cases rest with
    | nil => simp [join]
    | cons second rest => simp [join, params, ih]

/-- A fragment in parts is rendered part by part. -/
theorem renderFrom_append {d : Dialect} (params before : List (ParamGroup × Value)) (f g : Fragment) :
    renderFrom d params before (f ++ g) =
      renderFrom d params before f ++ renderFrom d params (before ++ f.params) g := by
  induction f generalizing before with
  | nil => rw [List.nil_append, renderFrom, Fragment.params, List.append_nil, String.empty_append]
  | cons piece rest ih =>
    cases piece with
    | text words =>
      rw [List.cons_append, renderFrom, renderFrom, ih, String.append_assoc, Fragment.params]
    | name identifier =>
      rw [List.cons_append, renderFrom, renderFrom, ih, String.append_assoc, Fragment.params]
    | param group value =>
      rw [List.cons_append, renderFrom, renderFrom, ih, String.append_assoc, Fragment.params,
        List.append_assoc]
      rfl

/-- A statement begins with the first words of its fragment. -/
theorem toList_renderFrom {words : String} {d : Dialect} {f : Fragment}
    (h : f.head? = some (.text words)) (params before : List (ParamGroup × Value)) :
    ∃ rest, (renderFrom d params before f).toList = words.toList ++ rest := by
  cases f with
  | nil => cases h
  | cons piece f =>
    obtain rfl := Option.some.inj h
    exact ⟨(renderFrom d params before f).toList, String.toList_append⟩

end Fragment

namespace Sql

open Fragment

/-! ## Conditions -/

@[simp] theorem Table.params_fragment (t : Table) : t.fragment.params = [] := by
  rw [Table.fragment]
  cases t.aliasName <;> rfl

@[simp] theorem Column.params_fragment (c : Column) : c.fragment.params = [] := by
  rw [Column.fragment]
  cases c.table <;> rfl

@[simp] theorem Column.params_equation (left right : Column) :
    (Column.equation left right).params = [] := by
  simp [Column.equation]

@[simp] theorem Source.params_fragment (s : Source) : s.fragment.params = [] := by
  cases s <;> simp [Source.fragment]

@[simp] theorem params_conjunction (fs : List Fragment) :
    (conjunction fs).params = fs.flatMap Fragment.params := by
  cases fs with
  | nil => rfl
  | cons first rest => exact params_join " AND " (first :: rest)

section Values

mutual

/-- The values of a condition, in the order of the text. -/
def Condition.values : Condition → List Value
  | .isNull _ _ => []
  | .compare _ _ value => [value]
  | .member _ _ values => values
  | .junction _ clauses => Condition.valuesOfClauses clauses
  | .negation clause => Condition.valuesOfClause clause
  | .subquery _ _ _ _ conditions => Condition.valuesOfClause conditions

/-- The values of conditions that hold together. -/
def Condition.valuesOfClause : List Condition → List Value
  | [] => []
  | condition :: rest => Condition.values condition ++ Condition.valuesOfClause rest

/-- The values of clauses. -/
def Condition.valuesOfClauses : List (List Condition) → List Value
  | [] => []
  | clause :: rest => Condition.valuesOfClause clause ++ Condition.valuesOfClauses rest

end

/-- The values of a clause, in the order of the text. -/
def Clause.values (clause : Clause) : List Value := Condition.valuesOfClause clause

theorem Condition.valuesOfClause_eq (clause : Clause) :
    Condition.valuesOfClause clause = clause.flatMap Condition.values := by
  induction clause with
  | nil => rfl
  | cons condition rest ih => rw [Condition.valuesOfClause, ih, List.flatMap_cons]

theorem Condition.valuesOfClauses_eq (clauses : List Clause) :
    Condition.valuesOfClauses clauses = clauses.flatMap Clause.values := by
  induction clauses with
  | nil => rfl
  | cons clause rest ih => rw [Condition.valuesOfClauses, ih, List.flatMap_cons, Clause.values]

variable (d : Dialect) (group : ParamGroup)

mutual

/-- A condition is written with its values. -/
theorem Condition.params_fragment : ∀ condition : Condition,
    (condition.fragment d group).params = condition.values.map (group, ·)
  | .isNull _ _ => by simp [Condition.fragment, Condition.values]
  | .compare column op value => by simp [Condition.fragment, Condition.values]
  | .member _ _ [] => rfl
  | .member column negated (value :: values) => by
    simp [Condition.fragment, Condition.values, List.flatMap_map, ← List.map_eq_flatMap]
  | .junction _ [] => rfl
  | .junction all (clause :: clauses) => by
    simp [Condition.fragment, Condition.values, Condition.params_clauseFragments (clause :: clauses)]
  | .negation clause => by
    rw [Condition.fragment, params_wrap, params_conjunction, Condition.params_fragments clause,
      Condition.values]
  | .subquery negated source left right conditions => by
    simp [Condition.fragment, Condition.values, Condition.params_fragments conditions]

/-- Conditions are written with their values. -/
theorem Condition.params_fragments : ∀ clause : List Condition,
    (Condition.fragments d group clause).flatMap Fragment.params =
      (Condition.valuesOfClause clause).map (group, ·)
  | [] => rfl
  | condition :: rest => by
    rw [Condition.fragments, List.flatMap_cons, Condition.params_fragment condition,
      Condition.params_fragments rest, Condition.valuesOfClause, List.map_append]

/-- Clauses are written with their values. -/
theorem Condition.params_clauseFragments : ∀ clauses : List (List Condition),
    (Condition.clauseFragments d group clauses).flatMap Fragment.params =
      (Condition.valuesOfClauses clauses).map (group, ·)
  | [] => rfl
  | clause :: rest => by
    rw [Condition.clauseFragments, List.flatMap_cons, params_wrap, params_conjunction,
      Condition.params_fragments clause, Condition.params_clauseFragments rest,
      Condition.valuesOfClauses, List.map_append]

end

theorem Clause.params_fragment (clause : Clause) :
    (clause.fragment d group).params = clause.values.map (group, ·) := by
  rw [Clause.fragment, params_conjunction, Condition.params_fragments, Clause.values]

theorem Clause.params_whereFragment (clause : Clause) :
    (clause.whereFragment d).params = clause.values.map (ParamGroup.condition, ·) := by
  rw [Clause.whereFragment]
  split
  · next hempty =>
    rw [List.isEmpty_iff.mp hempty]
    rfl
  · rw [params_append, params_ofText, Clause.params_fragment, List.nil_append]

end Values

/-! ## Reads -/

@[simp] theorem OrderKey.params_fragment (d : Dialect) (key : OrderKey) :
    (key.fragment d).params = [] := by
  rw [OrderKey.fragment]
  cases key.nulls with
  | none => simp
  | some place =>
    cases h : d.has .nullsPlace <;> simp

@[simp] theorem params_orderFragment (d : Dialect) (keys : List OrderKey) :
    (orderFragment d keys).params = [] := by
  rw [orderFragment]
  split
  · rfl
  · simp [List.flatMap_map]

@[simp] theorem params_limitFragment (d : Dialect) (take skip : Option Int64) :
    (limitFragment d take skip).params = [] := by
  cases take <;> cases skip <;> rfl

@[simp] theorem Projection.params_fragment (p : Projection) : p.fragment.params = [] := by
  cases p <;> simp [Projection.fragment]

/-- The value of a condition of a scalar subquery, if it compares with one. -/
def Match.values : Match → List Value
  | .outer _ _ => []
  | .value _ v => [v]
  | .null _ => []

/-- The values of a scalar subquery. -/
def ScalarQuery.values (q : ScalarQuery) : List Value := q.conditions.flatMap Match.values

/-- The values of the clause that is counted, where filtered rows are. -/
def Item.counted : Item → List Value
  | .filteredCount clause _ => clause.values
  | _ => []

/-- The values of a computed field. -/
def Item.computed : Item → List Value
  | .scalar query _ => query.values
  | _ => []

/-- The values of the rows that a read starts from. -/
def Base.values : Base → List Value
  | .table _ => []
  | .page p _ => p.clause.values

/-- The values of the conditions on joined rows. -/
def Join.values (j : Join) : List Value := Clause.values j.conditions

/-- The values of a read that belong to a group, by where they stand: in the clause of the rows that
are read, in filtered counts, in computed fields, and in joins. -/
def Select.bound (s : Select) : ParamGroup → List Value
  | .data => []
  | .condition => s.base.values ++ s.clause.values
  | .filter => s.items.flatMap Item.counted
  | .computed => s.items.flatMap Item.computed
  | .join => s.joins.flatMap Join.values

theorem Match.params_fragment (m : Match) :
    m.fragment.params = m.values.map (ParamGroup.computed, ·) := by
  cases m <;> simp [Match.fragment, Match.values]

theorem ScalarQuery.params_fragment (d : Dialect) (q : ScalarQuery) :
    (q.fragment d).params = q.values.map (ParamGroup.computed, ·) := by
  have hconditions : Fragment.params (if q.conditions.isEmpty then [] else
      ofText " WHERE " ++ Fragment.join " AND " (q.conditions.map Match.fragment)) =
        q.values.map (ParamGroup.computed, ·) := by
    split
    · next hempty =>
      rw [ScalarQuery.values, List.isEmpty_iff.mp hempty]
      rfl
    · simp [ScalarQuery.values, List.flatMap_map, List.map_flatMap, Match.params_fragment]
  have hlimit : Fragment.params (if q.firstOnly then ofText " LIMIT 1" else []) = [] := by
    split <;> rfl
  simp only [ScalarQuery.fragment, params_wrap, params_append, Projection.params_fragment,
    params_ofText, params_ofName, params_orderFragment, hconditions, hlimit, List.nil_append,
    List.append_nil]

theorem Item.params_fragment (d : Dialect) (item : Item) :
    (item.fragment d).params =
      item.counted.map (ParamGroup.filter, ·) ++ item.computed.map (ParamGroup.computed, ·) := by
  cases item <;>
    simp [Item.fragment, Item.counted, Item.computed, Clause.params_fragment,
      ScalarQuery.params_fragment]

theorem Page.params_fragment (d : Dialect) (p : Page) :
    (p.fragment d).params = p.clause.values.map (ParamGroup.condition, ·) := by
  simp [Page.fragment, Clause.params_whereFragment]

theorem Base.params_fragment (d : Dialect) (b : Base) :
    (b.fragment d).params = b.values.map (ParamGroup.condition, ·) := by
  cases b <;> simp [Base.fragment, Base.values, Page.params_fragment]

theorem Join.params_fragment (d : Dialect) (j : Join) :
    (j.fragment d).params = j.values.map (ParamGroup.join, ·) := by
  have hstep (step : Table × Column × Column) : (Join.stepFragment step).params = [] := by
    simp [Join.stepFragment]
  rw [Join.fragment, params_join, List.flatMap_cons, Condition.params_fragments, params_join,
    List.flatMap_map]
  simp [hstep, Join.values, Clause.values]

/-- The values of a read in the order of the text: what is selected, where from, what is joined, and
under which clause. -/
theorem Select.params_eq (d : Dialect) (s : Select) :
    (s.fragment d).params =
      s.items.flatMap (fun item => item.counted.map (ParamGroup.filter, ·) ++
          item.computed.map (ParamGroup.computed, ·)) ++
        s.base.values.map (ParamGroup.condition, ·) ++
        (s.joins.flatMap Join.values).map (ParamGroup.join, ·) ++
        s.clause.values.map (ParamGroup.condition, ·) := by
  have hjoins (joins : List Join) :
      Fragment.params (joins.flatMap fun join => ofText " " ++ join.fragment d) =
        (joins.flatMap Join.values).map (ParamGroup.join, ·) := by
    induction joins with
    | nil => rfl
    | cons join joins ih => simp [ih, Join.params_fragment]
  have hgroups : Fragment.params (if s.groupBy.isEmpty then [] else
      ofText " GROUP BY " ++ Fragment.join ", " (s.groupBy.map Column.fragment)) = [] := by
    split
    · rfl
    · simp [List.flatMap_map]
  simp only [Select.fragment, params_append, params_ofText, params_join, List.flatMap_map, hjoins,
    hgroups, Item.params_fragment, Base.params_fragment, Clause.params_whereFragment,
    params_orderFragment, params_limitFragment, List.nil_append, List.append_nil]

/-- A read has the same values in all dialects. -/
theorem Select.params_fragment (d d' : Dialect) (s : Select) :
    (s.fragment d).params = (s.fragment d').params :=
  (s.params_eq d).trans (s.params_eq d').symm

/-! ## Writes -/

@[simp] theorem params_namesFragment (names : List String) : (namesFragment names).params = [] := by
  simp [namesFragment, List.flatMap_map]

@[simp] theorem params_tupleFragment (values : List Value) :
    (tupleFragment values).params = values.map (ParamGroup.data, ·) := by
  rw [tupleFragment, params_wrap, params_join, List.flatMap_map, List.map_eq_flatMap]
  rfl

@[simp] theorem params_insertFragment (d : Dialect) (opening table : String) (row : Assignments) :
    (insertFragment d opening table row).params = row.map fun a => (ParamGroup.data, a.2) := by
  rw [insertFragment]
  cases row <;> simp

@[simp] theorem params_assignmentsFragment (assignments : Assignments) :
    (assignmentsFragment assignments).params =
      assignments.map fun a => (ParamGroup.data, a.2) := by
  rw [assignmentsFragment, params_join, List.flatMap_map, List.map_eq_flatMap]
  rfl

/-- The values of an upsert are those of the row and of the changes, however it is written. -/
@[simp] theorem Write.params_upsertFragment (d : Dialect) (table : String) (row : Assignments)
    (conflict : List String) (changes : Assignments) :
    (Write.upsertFragment d table row conflict changes).params =
      row.map (fun a => (ParamGroup.data, a.2)) ++
        changes.map fun a => (ParamGroup.data, a.2) := by
  cases d <;> cases changes <;> simp [Write.upsertFragment]

/-- The value of an id of a join table. -/
def Reference.bound : Reference → Value
  | .value v => v
  | .lookup _ _ _ v => v

/-- The values that a write stores. -/
def Write.stored : Write → List Value
  | .insert _ row => row.map Prod.snd
  | .insertRows _ _ rows => rows.flatten
  | .upsert _ row _ changes => row.map Prod.snd ++ changes.map Prod.snd
  | .update _ assignments _ _ => assignments.map Prod.snd
  | .delete _ _ => []
  | .connect _ _ _ own target => [own, target.bound]
  | .disconnect _ _ _ _ _ => []

/-- The values of the conditions on the rows that a write changes. -/
def Write.asked : Write → List Value
  | .update _ _ clause _ => clause.values
  | .delete _ clause => clause.values
  | .disconnect _ _ _ own target => [own, target.bound]
  | _ => []

/-- The values of a write that belong to a group. -/
def Write.bound (w : Write) : ParamGroup → List Value
  | .data => w.stored
  | .condition => w.asked
  | _ => []

@[simp] theorem Reference.params_fragment (group : ParamGroup) (r : Reference) :
    (r.fragment group).params = [(group, r.bound)] := by
  cases r <;> simp [Reference.fragment, Reference.bound]

/-- The values of a write in the order of the text. -/
theorem Write.params_eq (d : Dialect) (w : Write) :
    (w.fragment d).params =
      w.stored.map (ParamGroup.data, ·) ++ w.asked.map (ParamGroup.condition, ·) := by
  have hreturned : Fragment.params (if w.returnsRows d then ofText " RETURNING *" else []) = [] := by
    split <;> rfl
  rw [Write.fragment, params_append, hreturned, List.append_nil]
  cases w with
  | connect table ownColumn targetColumn own target =>
    cases hwords : d.ignoreConflict <;>
      simp [Write.body, hwords, Write.stored, Write.asked]
  | insertRows table columns rows =>
    have hrow : params ∘ tupleFragment = List.map (ParamGroup.data, ·) :=
      funext params_tupleFragment
    simp [Write.body, Write.stored, Write.asked, List.map_flatten, List.flatMap_def, hrow]
  | _ =>
    simp [Write.body, Write.stored, Write.asked, Clause.params_whereFragment, Function.comp_def]

/-- A write has the same values in all dialects. -/
theorem Write.params_fragment (d d' : Dialect) (w : Write) :
    (w.fragment d).params = (w.fragment d').params :=
  (w.params_eq d).trans (w.params_eq d').symm

end Sql

end RelationalQuery
