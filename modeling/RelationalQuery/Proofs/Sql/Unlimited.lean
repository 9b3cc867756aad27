import RelationalQuery.Proofs.Sql.Params
import RelationalQuery.Proofs.Sql.Tokens

/-!
# Words without limits

Only pages, and the reads and subqueries that are written with a limit of their own, cut off rows.
All that stands around them neither limits nor skips: conditions, joins and orderings. `Keeps` says so
of a fragment, together with the group of all its values.

## Shape of the lemmas

One lemma for each way to put fragments together, then one for each kind of tree.
-/

namespace RelationalQuery

open Sql

namespace Fragment

/-! ## Words without limits -/

/-- Whether a text neither limits rows nor skips any. -/
def isUnlimited (words : String) : Bool :=
  (tokens words.toList).all fun token => token ≠ "LIMIT".toList && token ≠ "OFFSET".toList

/-- Whether all words of a fragment limit no rows, and all its values belong to a group. -/
def Keeps (group : ParamGroup) : Fragment → Prop
  | [] => True
  | .text words :: rest => isUnlimited words ∧ Keeps group rest
  | .name _ :: rest => Keeps group rest
  | .param g _ :: rest => g = group ∧ Keeps group rest

variable {group : ParamGroup}

theorem Keeps.append {f g : Fragment} (hf : Keeps group f) (hg : Keeps group g) :
    Keeps group (f ++ g) := by
  induction f with
  | nil => exact hg
  | cons piece rest ih =>
    cases piece with
    | text words => exact ⟨hf.1, ih hf.2⟩
    | name identifier => exact ih hf
    | param g value => exact ⟨hf.1, ih hf.2⟩

theorem keeps_text {words : String} (h : isUnlimited words) : Keeps group (ofText words) :=
  ⟨h, trivial⟩

theorem keeps_name (identifier : String) : Keeps group (ofName identifier) := trivial

theorem keeps_param (value : Value) : Keeps group (ofParam group value) := ⟨rfl, trivial⟩

/-- Fragments with a text between them. -/
theorem Keeps.between {f g : Fragment} {words : String} (hf : Keeps group f)
    (hwords : isUnlimited words) (hg : Keeps group g) : Keeps group (f ++ ofText words ++ g) :=
  (hf.append (keeps_text hwords)).append hg

theorem Keeps.wrap {f : Fragment} {opening closing : String} (hopening : isUnlimited opening)
    (hf : Keeps group f) (hclosing : isUnlimited closing) :
    Keeps group (wrap opening f closing) :=
  ⟨hopening, hf.append (keeps_text hclosing)⟩

theorem keeps_join {separator : String} {fs : List Fragment} (hseparator : isUnlimited separator)
    (h : ∀ f ∈ fs, Keeps group f) : Keeps group (join separator fs) := by
  induction fs with
  | nil => trivial
  | cons first rest ih =>
    obtain ⟨hfirst, hrest⟩ := List.forall_mem_cons.mp h
    cases rest with
    | nil => exact hfirst
    | cons next rest => exact hfirst.append ⟨hseparator, ih hrest⟩

/-- The values of a fragment that keeps to a group are of the group. -/
theorem Keeps.group_eq {f : Fragment} (h : Keeps group f) : ∀ entry ∈ f.params, entry.1 = group := by
  induction f with
  | nil => exact fun _ hmem => absurd hmem List.not_mem_nil
  | cons piece rest ih =>
    cases piece with
    | text words => exact ih h.2
    | name identifier => exact ih h
    | param g value => exact List.forall_mem_cons.mpr ⟨h.1, ih h.2⟩

/-- The words of a fragment that keeps to a group limit no rows. -/
theorem Keeps.isUnlimited {f : Fragment} (h : Keeps group f) {words : String}
    (hmem : .text words ∈ f) : isUnlimited words := by
  induction f with
  | nil => exact absurd hmem List.not_mem_nil
  | cons piece rest ih =>
    cases piece with
    | text first =>
      rcases List.mem_cons.mp hmem with heq | hmem
      · obtain rfl := Piece.text.inj heq
        exact h.1
      · exact ih h.2 hmem
    | name identifier => exact ih h ((List.mem_cons.mp hmem).resolve_left (by simp))
    | param g value => exact ih h.2 ((List.mem_cons.mp hmem).resolve_left (by simp))

end Fragment

namespace Sql

open Fragment

variable {d : Dialect} {group : ParamGroup}

theorem Table.keeps_fragment (t : Table) : Keeps group t.fragment := by
  rw [Table.fragment]
  cases t.aliasName with
  | none => trivial
  | some aliasName => exact (keeps_name t.name).append ⟨by decide, trivial⟩

theorem Column.keeps_fragment (c : Column) : Keeps group c.fragment := by
  rw [Column.fragment]
  cases c.table with
  | none => trivial
  | some table => exact (keeps_name table).between (by decide) (keeps_name c.name)

theorem Column.keeps_equation (left right : Column) : Keeps group (Column.equation left right) :=
  left.keeps_fragment.between (by decide) right.keeps_fragment

theorem Source.keeps_fragment (s : Source) : Keeps group s.fragment := by
  cases s with
  | single table => exact table.keeps_fragment
  | linked junction target left right =>
    exact (junction.keeps_fragment.between (by decide) target.keeps_fragment).between (by decide)
      (Column.keeps_equation left right)

theorem keeps_constant (holds : Bool) : Keeps group (constant holds) :=
  keeps_text (by cases holds <;> decide)

theorem keeps_conjunction {fs : List Fragment} (h : ∀ f ∈ fs, Keeps group f) :
    Keeps group (conjunction fs) := by
  cases fs with
  | nil => exact keeps_constant true
  | cons first rest => exact keeps_join (by decide) h

theorem Comparator.isUnlimited_sql (op : Comparator) : isUnlimited s!" {op.sql d} " := by
  cases op with
  | like insensitive =>
    rw [Comparator.sql]
    split <;> decide
  | _ => rw [Comparator.sql]; decide

mutual

theorem Condition.keeps_fragment :
    (condition : Condition) → Keeps group (condition.fragment d group)
  | .isNull column negated => by
    rw [Condition.fragment]
    exact column.keeps_fragment.append (keeps_text (by cases negated <;> decide))
  | .compare column op value => by
    rw [Condition.fragment]
    exact column.keeps_fragment.between op.isUnlimited_sql (keeps_param value)
  | .member column negated values => by
    cases values with
    | nil => exact keeps_constant negated
    | cons value values =>
      rw [Condition.fragment]
      · refine (column.keeps_fragment.between (by cases negated <;> decide) ?_).append
          (keeps_text (by decide))
        refine keeps_join (by decide) fun f hf => ?_
        obtain ⟨v, -, rfl⟩ := List.mem_map.mp hf
        exact keeps_param v
      · exact List.cons_ne_nil value values
  | .junction all clauses => by
    cases clauses with
    | nil => exact keeps_constant all
    | cons clause clauses =>
      rw [Condition.fragment]
      · exact Keeps.wrap (by decide) (keeps_join (by cases all <;> decide)
          (Condition.keeps_clauseFragments (clause :: clauses))) (by decide)
      · exact List.cons_ne_nil clause clauses
  | .negation clause => by
    rw [Condition.fragment]
    exact Keeps.wrap (by decide) (keeps_conjunction (Condition.keeps_fragments clause)) (by decide)
  | .subquery negated source left right conditions => by
    rw [Condition.fragment]
    refine Keeps.wrap (by cases negated <;> decide) ?_ (by decide)
    refine source.keeps_fragment.between (by decide) (keeps_join (by decide) ?_)
    exact List.forall_mem_cons.mpr
      ⟨Column.keeps_equation left right, Condition.keeps_fragments conditions⟩

theorem Condition.keeps_fragments :
    (conditions : List Condition) → ∀ f ∈ Condition.fragments d group conditions, Keeps group f
  | [], f, hf => absurd hf (by rw [Condition.fragments]; exact List.not_mem_nil)
  | condition :: rest, f, hf => by
    rw [Condition.fragments, List.mem_cons] at hf
    rcases hf with rfl | hf
    · exact Condition.keeps_fragment condition
    · exact Condition.keeps_fragments rest f hf

theorem Condition.keeps_clauseFragments :
    (clauses : List (List Condition)) →
      ∀ f ∈ Condition.clauseFragments d group clauses, Keeps group f
  | [], f, hf => absurd hf (by rw [Condition.clauseFragments]; exact List.not_mem_nil)
  | clause :: rest, f, hf => by
    rw [Condition.clauseFragments, List.mem_cons] at hf
    rcases hf with rfl | hf
    · exact Keeps.wrap (by decide) (keeps_conjunction (Condition.keeps_fragments clause)) (by decide)
    · exact Condition.keeps_clauseFragments rest f hf

end

theorem Clause.keeps_fragment (clause : Clause) : Keeps group (clause.fragment d group) :=
  keeps_conjunction (Condition.keeps_fragments clause)

theorem OrderKey.keeps_fragment (key : OrderKey) : Keeps group (key.fragment d) := by
  rw [OrderKey.fragment]
  refine (key.column.keeps_fragment.append
    (keeps_text (by cases key.direction <;> decide))).append ?_
  cases key.nulls with
  | none => trivial
  | some place =>
    dsimp only
    split
    · exact keeps_text (by cases place <;> decide)
    · trivial

theorem keeps_orderFragment (keys : List OrderKey) : Keeps group (orderFragment d keys) := by
  rw [orderFragment]
  split
  · trivial
  · refine ⟨by decide, keeps_join (by decide) fun f hf => ?_⟩
    obtain ⟨key, -, rfl⟩ := List.mem_map.mp hf
    exact key.keeps_fragment

theorem Join.keeps_fragment (j : Join) : Keeps .join (j.fragment d) := by
  refine keeps_join (by decide) (List.forall_mem_cons.mpr
    ⟨keeps_join (by decide) fun f hf => ?_, Condition.keeps_fragments j.conditions⟩)
  obtain ⟨step, -, rfl⟩ := List.mem_map.mp hf
  exact ((keeps_text (by decide)).append step.1.keeps_fragment).between (by decide)
    (Column.keeps_equation step.2.1 step.2.2)

/-- Joins, each after a blank. -/
theorem keeps_joins (joins : List Join) :
    Keeps .join (joins.flatMap fun join => ofText " " ++ join.fragment d) := by
  induction joins with
  | nil => trivial
  | cons join joins ih =>
    rw [List.flatMap_cons]
    exact ((keeps_text (by decide)).append join.keeps_fragment).append ih

end Sql

end RelationalQuery
