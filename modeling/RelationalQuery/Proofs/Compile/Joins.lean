import RelationalQuery.Compile.Include
import RelationalQuery.Proofs.Compile.Names
import RelationalQuery.Proofs.Result

/-!
# Names of joins

The tables of a read with joins are named by number: `t0` is the queried table, and every join has
the next number for its tables. So no two tables of the `FROM` have the same name, and the names that
filters are told of are exactly those that the rendered joins introduce.
-/

namespace RelationalQuery.Compile

open Sql

variable {c : Context}

/-! ## Links -/

/-- Only relations without a join table are tied directly. -/
theorem isManyToMany_of_direct {model own target : String} {relation : Relation}
    (h : c.schema.link model relation = .direct own target) : relation.isManyToMany = false := by
  rw [Schema.link] at h
  split at h
  · cases h
  · next hmany => exact Bool.eq_false_iff.mpr hmany

/-- Only relations with a join table are tied by its rows. -/
theorem joinTable_of_junction {model : String} {relation : Relation} {table : Option String}
    {ownId ownColumn targetColumn targetId : String}
    (h : c.schema.link model relation = .junction table ownId ownColumn targetColumn targetId) :
    relation.isManyToMany = true ∧ relation.joinTable = table := by
  rw [Schema.link] at h
  split at h
  · next hmany => exact ⟨hmany, (Link.junction.inj h).1⟩
  · split at h <;> cases h

/-! ## Numbers -/

/-- Whether the table of a join goes by the alias of its number. -/
def PlannedJoin.IsNumbered (join : PlannedJoin) : Prop := join.row.name = tableAlias join.number

/-- The joins that are planned are numbered from one on. -/
theorem eq_number_of_planJoins {base : Occurrence} {selection : Selection}
    {joins : List PlannedJoin} (h : planJoins c base selection = .ok joins) :
    joins =
      number c 1 ((forest c.schema base.model selection).map fun tree => (base, tree)) := by
  rw [planJoins, bind_eq_ok_iff] at h
  obtain ⟨-, -, h⟩ := h
  exact (Except.ok.inj h).symm

/-- Joins are numbered one after the other. -/
theorem map_number (next : Nat) (queue : List (Occurrence × IncludeTree)) :
    (number c next queue).map PlannedJoin.number =
      List.range' next (number c next queue).length := by
  induction next, queue using number.induct c with
  | case1 next => rw [number]; rfl
  | case2 next parent tree queue join ih =>
    rw [number, List.map_cons, List.length_cons, List.range'_succ, ih]
    cases tree
    rfl

/-- The tables of numbered joins go by their numbers. -/
theorem isNumbered_of_mem_number (next : Nat) (queue : List (Occurrence × IncludeTree)) :
    ∀ join ∈ number c next queue, join.IsNumbered := by
  induction next, queue using number.induct c with
  | case1 next =>
    rw [number]
    exact fun join h => absurd h List.not_mem_nil
  | case2 next parent tree queue join ih =>
    rw [number]
    intro found hfound
    rcases List.mem_cons.mp hfound with rfl | hfound
    · cases tree
      rfl
    · exact ih found hfound

/-- The names that a join introduces carry its number. -/
theorem eq_of_mem_names {join : PlannedJoin} (h : join.IsNumbered) {name : String}
    (hname : name ∈ join.names) :
    name = tableAlias join.number ∨ name = junctionAlias join.number := by
  rw [PlannedJoin.names] at hname
  split at hname
  · rcases List.mem_cons.mp hname with rfl | hname
    · exact Or.inr rfl
    · exact Or.inl ((List.mem_singleton.mp hname).trans h)
  · exact Or.inl ((List.mem_singleton.mp hname).trans h)

/-- Joins with different numbers have no name in common. -/
theorem ne_of_mem_names {a b : PlannedJoin} (ha : a.IsNumbered) (hb : b.IsNumbered)
    (hne : a.number ≠ b.number) {first second : String} (hfirst : first ∈ a.names)
    (hsecond : second ∈ b.names) : first ≠ second := by
  rintro rfl
  rcases eq_of_mem_names ha hfirst with h | h <;>
    rcases eq_of_mem_names hb hsecond with h' | h'
  · exact hne (tableAlias_injective (h.symm.trans h'))
  · exact tableAlias_ne_junctionAlias _ _ (h.symm.trans h')
  · exact tableAlias_ne_junctionAlias _ _ (h'.symm.trans h)
  · exact hne (junctionAlias_injective (h.symm.trans h'))

/-- The names of one join are different. -/
theorem nodup_names {join : PlannedJoin} (h : join.IsNumbered) : join.names.Nodup := by
  rw [PlannedJoin.names]
  split
  · refine List.nodup_cons.mpr ⟨fun hmem => ?_, by simp⟩
    have hsame := (List.mem_singleton.mp hmem).trans h
    exact tableAlias_ne_junctionAlias _ _ hsame.symm
  · simp

/-- The names of joins with different numbers are different. -/
theorem nodup_flatMap_names {joins : List PlannedJoin} (hnumbers : (joins.map (·.number)).Nodup)
    (h : ∀ join ∈ joins, join.IsNumbered) : (joins.flatMap PlannedJoin.names).Nodup := by
  induction joins with
  | nil => exact List.nodup_nil
  | cons join joins ih =>
    rw [List.map_cons, List.nodup_cons] at hnumbers
    have hjoin := h join List.mem_cons_self
    have hjoins := fun other hother => h other (List.mem_cons_of_mem join hother)
    rw [List.flatMap_cons, List.nodup_append]
    refine ⟨nodup_names hjoin, ih hnumbers.2 hjoins, fun first hfirst second hsecond => ?_⟩
    obtain ⟨other, hother, hsecond⟩ := List.mem_flatMap.mp hsecond
    refine ne_of_mem_names hjoin (hjoins other hother) (fun hsame => ?_) hfirst hsecond
    exact hnumbers.1 (hsame ▸ List.mem_map_of_mem hother)

/-- The names in a read with joins are different, that of the queried table included. -/
theorem nodup_visible (queue : List (Occurrence × IncludeTree)) :
    (baseAlias :: (number c 1 queue).flatMap PlannedJoin.names).Nodup := by
  have hnumbered := isNumbered_of_mem_number (c := c) 1 queue
  refine List.nodup_cons.mpr ⟨fun hmem => ?_, nodup_flatMap_names ?_ hnumbered⟩
  · obtain ⟨join, hjoin, hname⟩ := List.mem_flatMap.mp hmem
    -- the queried table is number zero, and joins are numbered from one on
    have hpositive : join.number ∈ List.range' 1 (number c 1 queue).length := by
      rw [← map_number]
      exact List.mem_map_of_mem hjoin
    rcases eq_of_mem_names (hnumbered join hjoin) hname with h | h
    · have hzero : 0 = join.number := tableAlias_injective h
      have hbound := (List.mem_range'_1.mp hpositive).1
      omega
    · exact tableAlias_ne_junctionAlias _ _ h
  · rw [map_number]
    exact List.nodup_range'

/-! ## Rendered joins -/

section Steps

variable {visible : List String} {join : PlannedJoin} {rendered : Join}

/-- The steps of a join over a join table. -/
def linkedSteps (join : PlannedJoin) (table ownId ownColumn targetColumn targetId : String) :
    List (Table × Column × Column) :=
  [(⟨table, some (junctionAlias join.number)⟩, ⟨some (junctionAlias join.number), ownColumn⟩,
      join.parent.outer ownId),
    (join.row.table, join.row.outer targetId, ⟨some (junctionAlias join.number), targetColumn⟩)]

/-- The steps of a join are those of the link: one to the related row, or one to the join table and one
on to the related row. -/
theorem steps_of_joinSteps {steps : List (Table × Column × Column)}
    (h : joinSteps c join = .ok steps) :
    (∃ own target, c.schema.link join.parent.model join.relation = .direct own target ∧
      steps = [(join.row.table, join.row.own target, join.parent.outer own)]) ∨
    ∃ table ownId ownColumn targetColumn targetId,
      c.schema.link join.parent.model join.relation =
        .junction (some table) ownId ownColumn targetColumn targetId ∧
      steps = linkedSteps join table ownId ownColumn targetColumn targetId := by
  rw [joinSteps] at h
  split at h
  · cases h
  · next link => exact .inr ⟨_, _, _, _, _, link, (Except.ok.inj h).symm⟩
  · next link => exact .inl ⟨_, _, link, (Except.ok.inj h).symm⟩

/-- A rendered join has the steps that were planned for it. -/
theorem joinSteps_of_renderJoin (h : renderJoin c visible join = .ok rendered) :
    joinSteps c join = .ok rendered.steps := by
  rw [renderJoin, bind_eq_ok_iff] at h
  obtain ⟨steps, hsteps, h⟩ := h
  rw [bind_eq_ok_iff] at h
  obtain ⟨conditions, -, h⟩ := h
  obtain rfl := Except.ok.inj h
  exact hsteps

/-- A rendered join introduces the names that were planned for it. -/
theorem names_renderJoin (h : renderJoin c visible join = .ok rendered) :
    rendered.steps.map (fun step => step.1.reference) = join.names := by
  rw [PlannedJoin.names]
  rcases steps_of_joinSteps (joinSteps_of_renderJoin h) with
    ⟨own, target, link, hsteps⟩ | ⟨table, ownId, ownColumn, targetColumn, targetId, link, hsteps⟩
  · rw [hsteps, isManyToMany_of_direct link]
    rfl
  · rw [hsteps, (joinTable_of_junction link).1]
    rfl

end Steps

/-- Rendered joins introduce the names that were planned for them. -/
theorem names_mapM_renderJoin {visible : List String} {planned : List PlannedJoin}
    {joins : List Join} (h : planned.mapM (renderJoin c visible) = .ok joins) :
    (joins.flatMap fun join => join.steps.map (·.1)).map Table.reference =
      planned.flatMap PlannedJoin.names := by
  induction planned generalizing joins with
  | nil =>
    obtain rfl : [] = joins := Except.ok.inj h
    rfl
  | cons first planned ih =>
    rw [List.mapM_cons, bind_eq_ok_iff] at h
    obtain ⟨join, hjoin, h⟩ := h
    rw [bind_eq_ok_iff] at h
    obtain ⟨rest, hrest, h⟩ := h
    obtain rfl : join :: rest = joins := Except.ok.inj h
    rw [List.flatMap_cons, List.map_append, List.flatMap_cons, ih hrest, List.map_map,
      ← names_renderJoin hjoin]
    rfl

end RelationalQuery.Compile
