/-!
# Truth values of SQL

A comparison with a null is neither true nor false. `Truth` has the three truth values, and the
connectives as SQL defines them: a conjunction is false if one of its parts is, whatever the others
are, and a negation leaves the unknown as it is.
-/

namespace RelationalQuery

/-- A truth value. -/
inductive Truth
  | no
  | unknown
  | yes
  deriving DecidableEq, Repr

namespace Truth

/-- A truth value that is known. -/
def ofBool : Bool → Truth
  | true => yes
  | false => no

/-- Negation. -/
def not : Truth → Truth
  | no => yes
  | unknown => unknown
  | yes => no

/-- Conjunction. -/
def and : Truth → Truth → Truth
  | yes, b => b
  | no, _ => no
  | unknown, no => no
  | unknown, _ => unknown

/-- Disjunction. -/
def or : Truth → Truth → Truth
  | no, b => b
  | yes, _ => yes
  | unknown, yes => yes
  | unknown, _ => unknown

/-- The conjunction of a list, which is true without parts. -/
def all (truths : List Truth) : Truth := truths.foldr and yes

/-- The disjunction of a list, which is false without parts. -/
def any (truths : List Truth) : Truth := truths.foldr or no

@[simp] theorem all_nil : all [] = yes := rfl

@[simp] theorem all_cons (a : Truth) (rest : List Truth) : all (a :: rest) = a.and (all rest) := rfl

@[simp] theorem and_yes (a : Truth) : a.and yes = a := by cases a <;> rfl

theorem and_assoc (a b c : Truth) : (a.and b).and c = a.and (b.and c) := by
  cases a <;> cases b <;> cases c <;> rfl

/-- The conjunction of two lists is that of their conjunctions. -/
theorem all_append (as bs : List Truth) : all (as ++ bs) = (all as).and (all bs) := by
  induction as with
  | nil => rfl
  | cons a as ih => rw [List.cons_append, all_cons, all_cons, ih, and_assoc]

/-- A negation is true if what it negates is false. -/
theorem not_eq_yes_iff {a : Truth} : a.not = yes ↔ a = no := by
  cases a <;> decide

end Truth

end RelationalQuery
