import RelationalQuery.Sql.Select
import RelationalQuery.Sql.Write

/-!
# Names apart from each other

Two quoted names side by side would be read as one name with a quote in it. `Spaced` says that a
fragment has something between any two of its names; every tree of a statement does.

## Shape of the lemmas

What starts with a text or a value may stand behind a name, and whatever is spaced may follow a text
(`Spaced.after`, `Spaced.between`). Each tree then has one lemma, which follows the text of the tree.
-/

namespace RelationalQuery

open Sql

namespace Fragment

/-- The names of a fragment, in the order of the text. -/
def names : Fragment → List String
  | [] => []
  | .name identifier :: rest => identifier :: names rest
  | .text _ :: rest => names rest
  | .param _ _ :: rest => names rest

/-- Whether no name of a fragment stands right behind another one. `named` says that a name stands
right before the fragment. -/
def Spaced (named : Bool) : Fragment → Prop
  | [] => True
  | .name _ :: rest => named = false ∧ Spaced true rest
  | .text _ :: rest => Spaced false rest
  | .param _ _ :: rest => Spaced false rest

variable {named : Bool} {f g : Fragment}

/-- What may stand behind a name may stand anywhere. -/
theorem Spaced.anywhere (h : Spaced true f) : Spaced named f := by
  cases f with
  | nil => trivial
  | cons piece rest =>
    cases piece with
    | name identifier => exact absurd h.1 (by decide)
    | text words => exact h
    | param group value => exact h

/-- What is spaced may stand behind anything but a name. -/
theorem Spaced.apart (h : Spaced named f) : Spaced false f := by
  cases named with
  | false => exact h
  | true => exact h.anywhere

/-- What may stand behind a name may follow any fragment. -/
theorem Spaced.append (hf : Spaced named f) (hg : Spaced true g) : Spaced named (f ++ g) := by
  induction f generalizing named with
  | nil => exact hg.anywhere
  | cons piece rest ih =>
    cases piece with
    | name identifier => exact ⟨hf.1, ih hf.2⟩
    | text words => exact ih hf
    | param group value => exact ih hf

theorem spaced_text (words : String) : Spaced named (ofText words) := trivial

theorem spaced_name (identifier : String) : Spaced false (ofName identifier) := ⟨rfl, trivial⟩

theorem spaced_param (group : ParamGroup) (value : Value) : Spaced named (ofParam group value) :=
  trivial

/-- Whatever is spaced may stand behind a text. -/
theorem Spaced.after {words : String} (h : Spaced false f) : Spaced named (ofText words ++ f) := h

/-- Fragments with a text between them. -/
theorem Spaced.between {words : String} (hf : Spaced named f) (hg : Spaced false g) :
    Spaced named (f ++ ofText words ++ g) := by
  rw [List.append_assoc]
  exact hf.append hg.after

/-- A fragment between two texts. -/
theorem Spaced.wrap {opening closing : String} (h : Spaced false f) :
    Spaced named (wrap opening f closing) := by
  have hinner : Spaced false (f ++ [.text closing]) := h.append (spaced_text closing)
  exact hinner

/-- Fragments with texts between them. -/
theorem spaced_join {separator : String} {fs : List Fragment} (h : ∀ f ∈ fs, Spaced named f) :
    Spaced named (join separator fs) := by
  induction fs generalizing named with
  | nil => trivial
  | cons first rest ih =>
    obtain ⟨hfirst, hrest⟩ := List.forall_mem_cons.mp h
    cases rest with
    | nil => exact hfirst
    | cons next rest => exact hfirst.append (ih fun f hf => (hrest f hf).apart).after

/-- The fragments of a list of trees. -/
theorem forall_mem_map {α : Type} {fragment : α → Fragment} (h : ∀ a, Spaced named (fragment a))
    (as : List α) : ∀ f ∈ as.map fragment, Spaced named f := by
  intro f hf
  obtain ⟨a, -, rfl⟩ := List.mem_map.mp hf
  exact h a

end Fragment

namespace Sql

open Fragment

variable {d : Dialect} {named : Bool}

/-! ## Conditions -/

theorem Table.spaced_fragment (t : Table) : Spaced false t.fragment := by
  rw [Table.fragment]
  refine (spaced_name t.name).append ?_
  cases t.aliasName with
  | none => trivial
  | some aliasName => exact (spaced_name aliasName).after

theorem Column.spaced_fragment (c : Column) : Spaced false c.fragment := by
  rw [Column.fragment]
  cases c.table with
  | none => exact spaced_name c.name
  | some table => exact (spaced_name table).between (spaced_name c.name)

theorem Column.spaced_equation (left right : Column) :
    Spaced false (Column.equation left right) :=
  left.spaced_fragment.between right.spaced_fragment

theorem Source.spaced_fragment (s : Source) : Spaced false s.fragment := by
  cases s with
  | single table => exact table.spaced_fragment
  | linked junction target left right =>
    exact (junction.spaced_fragment.between target.spaced_fragment).between
      (Column.spaced_equation left right)

theorem spaced_constant (holds : Bool) : Spaced named (constant holds) := trivial

theorem spaced_conjunction {fs : List Fragment} (h : ∀ f ∈ fs, Spaced false f) :
    Spaced false (conjunction fs) := by
  cases fs with
  | nil => exact spaced_constant true
  | cons first rest => exact spaced_join h

mutual

theorem Condition.spaced_fragment (group : ParamGroup) :
    (condition : Condition) → Spaced false (condition.fragment d group)
  | .isNull column negated => by
    rw [Condition.fragment]
    exact column.spaced_fragment.append (spaced_text _)
  | .compare column op value => by
    rw [Condition.fragment]
    exact column.spaced_fragment.between (spaced_param group value)
  | .member column negated values => by
    cases values with
    | nil => exact spaced_constant negated
    | cons value values =>
      rw [Condition.fragment]
      · refine (column.spaced_fragment.between ?_).append (spaced_text _)
        exact spaced_join (forall_mem_map (spaced_param group) _)
      · exact List.cons_ne_nil value values
  | .junction all clauses => by
    cases clauses with
    | nil => exact spaced_constant all
    | cons clause clauses =>
      rw [Condition.fragment]
      · exact Spaced.wrap (spaced_join (Condition.spaced_clauseFragments group (clause :: clauses)))
      · exact List.cons_ne_nil clause clauses
  | .negation clause => by
    rw [Condition.fragment]
    exact Spaced.wrap (spaced_conjunction (Condition.spaced_fragments group clause))
  | .subquery negated source left right conditions => by
    rw [Condition.fragment]
    refine Spaced.wrap (source.spaced_fragment.between (spaced_join ?_))
    exact List.forall_mem_cons.mpr
      ⟨Column.spaced_equation left right, Condition.spaced_fragments group conditions⟩

theorem Condition.spaced_fragments (group : ParamGroup) :
    (conditions : List Condition) → ∀ f ∈ Condition.fragments d group conditions, Spaced false f
  | [], f, hf => absurd hf (by rw [Condition.fragments]; exact List.not_mem_nil)
  | condition :: rest, f, hf => by
    rw [Condition.fragments, List.mem_cons] at hf
    rcases hf with rfl | hf
    · exact Condition.spaced_fragment group condition
    · exact Condition.spaced_fragments group rest f hf

theorem Condition.spaced_clauseFragments (group : ParamGroup) :
    (clauses : List (List Condition)) →
      ∀ f ∈ Condition.clauseFragments d group clauses, Spaced false f
  | [], f, hf => absurd hf (by rw [Condition.clauseFragments]; exact List.not_mem_nil)
  | clause :: rest, f, hf => by
    rw [Condition.clauseFragments, List.mem_cons] at hf
    rcases hf with rfl | hf
    · exact Spaced.wrap (spaced_conjunction (Condition.spaced_fragments group clause))
    · exact Condition.spaced_clauseFragments group rest f hf

end

theorem Clause.spaced_fragment (group : ParamGroup) (clause : Clause) :
    Spaced false (clause.fragment d group) :=
  spaced_conjunction (Condition.spaced_fragments group clause)

theorem Clause.spaced_whereFragment (clause : Clause) : Spaced named (clause.whereFragment d) := by
  rw [Clause.whereFragment]
  split
  · trivial
  · exact (clause.spaced_fragment .condition).after

/-! ## Reads -/

theorem OrderKey.spaced_fragment (key : OrderKey) : Spaced false (key.fragment d) := by
  rw [OrderKey.fragment]
  refine (key.column.spaced_fragment.append (spaced_text _)).append ?_
  cases key.nulls with
  | none => trivial
  | some place =>
    dsimp only
    split <;> trivial

theorem spaced_orderFragment (keys : List OrderKey) : Spaced named (orderFragment d keys) := by
  rw [orderFragment]
  split
  · trivial
  · exact (spaced_join (forall_mem_map OrderKey.spaced_fragment keys)).after

theorem spaced_limitFragment (take skip : Option Int64) :
    Spaced named (limitFragment d take skip) := by
  cases take <;> cases skip <;> trivial

theorem Projection.spaced_fragment (p : Projection) : Spaced false p.fragment := by
  cases p with
  | rows => trivial
  | column c => exact c.spaced_fragment
  | apply function c => exact c.spaced_fragment.wrap

theorem Match.spaced_fragment (m : Match) : Spaced false m.fragment := by
  cases m with
  | outer c other => exact Column.spaced_equation c other
  | value c v => exact c.spaced_fragment.between (spaced_param _ v)
  | null c => exact c.spaced_fragment.append (spaced_text _)

theorem ScalarQuery.spaced_fragment (q : ScalarQuery) : Spaced false (q.fragment d) := by
  have hconditions : Spaced true (if q.conditions.isEmpty then [] else
      ofText " WHERE " ++ Fragment.join " AND " (q.conditions.map Match.fragment)) := by
    split
    · trivial
    · exact (spaced_join (forall_mem_map Match.spaced_fragment q.conditions)).after
  have hlimit : Spaced true (if q.firstOnly then ofText " LIMIT 1" else []) := by
    split <;> trivial
  have htable : Spaced false (q.projection.fragment ++ ofText " FROM " ++ ofName q.table) :=
    q.projection.spaced_fragment.between (spaced_name q.table)
  exact ((htable.append hconditions).append (spaced_orderFragment q.orderBy)).append hlimit |>.wrap

theorem Item.spaced_fragment (item : Item) : Spaced false (item.fragment d) := by
  cases item with
  | everything => trivial
  | everythingOf table => exact (spaced_name table).append (spaced_text _)
  | column c => exact c.spaced_fragment
  | aliased c aliasName => exact c.spaced_fragment.between (spaced_name aliasName)
  | count => trivial
  | aggregate projection aliasName =>
    exact projection.spaced_fragment.between (spaced_name aliasName)
  | filteredCount clause aliasName =>
    exact (clause.spaced_fragment .filter).wrap.between (spaced_name aliasName)
  | scalar query aliasName => exact query.spaced_fragment.between (spaced_name aliasName)

theorem Page.spaced_fragment (p : Page) : Spaced named (p.fragment d) :=
  (((p.table.spaced_fragment.after).append p.clause.spaced_whereFragment).append
    (spaced_orderFragment p.orderBy)).append (spaced_limitFragment p.take p.skip)

theorem Base.spaced_fragment (b : Base) : Spaced false (b.fragment d) := by
  cases b with
  | table t => exact t.spaced_fragment
  | page p aliasName => exact p.spaced_fragment.wrap.between (spaced_name aliasName)

theorem Join.spaced_fragment (j : Join) : Spaced false (j.fragment d) := by
  have hstep (step : Table × Column × Column) : Spaced false (Join.stepFragment step) :=
    step.1.spaced_fragment.after.between (Column.spaced_equation step.2.1 step.2.2)
  exact spaced_join (List.forall_mem_cons.mpr
    ⟨spaced_join (forall_mem_map hstep j.steps), Condition.spaced_fragments .join j.conditions⟩)

/-- Joins, each after a blank. -/
theorem spaced_joins (joins : List Join) :
    Spaced named (joins.flatMap fun join => ofText " " ++ join.fragment d) := by
  induction joins generalizing named with
  | nil => trivial
  | cons join joins ih =>
    rw [List.flatMap_cons]
    exact join.spaced_fragment.after.append ih

theorem Select.spaced_fragment (s : Select) : Spaced false (s.fragment d) := by
  have hitems : Spaced false (ofText "SELECT " ++
      Fragment.join ", " (s.items.map (·.fragment d)) ++ ofText " FROM " ++ s.base.fragment d) :=
    (spaced_join (forall_mem_map Item.spaced_fragment s.items)).after.between s.base.spaced_fragment
  have hgroups : Spaced true (if s.groupBy.isEmpty then [] else
      ofText " GROUP BY " ++ Fragment.join ", " (s.groupBy.map Column.fragment)) := by
    split
    · trivial
    · exact (spaced_join (forall_mem_map Column.spaced_fragment s.groupBy)).after
  exact ((((hitems.append (spaced_joins s.joins)).append s.clause.spaced_whereFragment).append
    hgroups).append (spaced_orderFragment s.orderBy)).append (spaced_limitFragment s.take s.skip)

/-! ## Writes -/

theorem spaced_namesFragment (names : List String) : Spaced false (namesFragment names) :=
  spaced_join (forall_mem_map spaced_name names)

theorem spaced_tupleFragment (values : List Value) : Spaced named (tupleFragment values) :=
  (spaced_join (forall_mem_map (spaced_param .data) values)).wrap

theorem spaced_insertFragment (opening table : String) (row : Assignments) :
    Spaced false (insertFragment d opening table row) := by
  refine (spaced_name table).after.between ?_
  split
  · trivial
  · exact (spaced_namesFragment _).wrap.append (spaced_tupleFragment _)

theorem spaced_assignmentsFragment (assignments : Assignments) :
    Spaced false (assignmentsFragment assignments) :=
  spaced_join (forall_mem_map (fun assignment : String × Value =>
    (spaced_name assignment.1).between (spaced_param .data assignment.2)) _)

theorem Reference.spaced_fragment (group : ParamGroup) (r : Reference) :
    Spaced named (r.fragment group) := by
  cases r with
  | value v => exact spaced_param group v
  | lookup idColumn table column v =>
    exact ((((spaced_name idColumn).after.between (spaced_name table)).between
      (spaced_name column)).between (spaced_param group v)).wrap

theorem Write.spaced_upsertFragment (table : String) (row : Assignments) (conflict : List String)
    (changes : Assignments) : Spaced false (Write.upsertFragment d table row conflict changes) := by
  have hinsert (opening : String) := spaced_insertFragment (d := d) opening table row
  have hchanges : Spaced true (if changes.isEmpty then ofText "NOTHING"
      else ofText "UPDATE SET " ++ assignmentsFragment changes) := by
    split
    · trivial
    · exact (spaced_assignmentsFragment changes).after
  unfold Write.upsertFragment
  split
  · split
    · exact hinsert _
    · exact (hinsert _).between (spaced_assignmentsFragment changes)
  · exact ((hinsert _).append (spaced_namesFragment conflict).wrap).append hchanges

theorem Write.spaced_body (w : Write) : Spaced false (w.body d) := by
  cases w with
  | insert table row => exact spaced_insertFragment _ table row
  | insertRows table columns rows =>
    exact ((spaced_name table).after.append (spaced_namesFragment columns).wrap).append
      (spaced_join (forall_mem_map spaced_tupleFragment rows))
  | upsert table row conflict changes => exact Write.spaced_upsertFragment table row conflict changes
  | update table assignments clause returned =>
    exact ((spaced_name table).after.between (spaced_assignmentsFragment assignments)).append
      clause.spaced_whereFragment
  | delete table clause => exact (spaced_name table).after.append clause.spaced_whereFragment
  | connect table ownColumn targetColumn own target =>
    refine (((((spaced_name table).after.append (spaced_namesFragment _).wrap).append
      (spaced_param .data own)).between (target.spaced_fragment .data)).append
        (spaced_text _)).append ?_
    split <;> trivial
  | disconnect table ownColumn targetColumn own target =>
    exact (((((spaced_name table).after.between (spaced_name ownColumn)).between
      (spaced_param .condition own)).between (spaced_name targetColumn)).between
        (target.spaced_fragment .condition))

theorem Write.spaced_fragment (w : Write) : Spaced false (w.fragment d) := by
  refine w.spaced_body.append ?_
  split <;> trivial

end Sql

end RelationalQuery
