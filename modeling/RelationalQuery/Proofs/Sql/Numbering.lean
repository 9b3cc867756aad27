import Mathlib.Data.List.Perm.Subperm
import RelationalQuery.Proofs.Sql.Sorting

/-!
# The numbers of arguments

Where placeholders are numbered, the arguments stand in the order of their groups, and each value is
bound by the number of its place there. Which number this is, is told by counting (`number`), and
`numbersFrom` lists the numbers in the order of the text. `arguments` takes the values group by group.

## Shape of the proof

The values of one group have the numbers that follow those of all earlier groups: a number is more
than `below` its group and at most `upTo` it. Inside a group the numbers count the values seen so
far. So no two values share a number, and `numbersFrom_perm` follows by counting. The arguments
themselves are taken group by group, where each value stands in its own group and in no other
(`arguments_perm`).
-/

namespace RelationalQuery.Fragment

open ParamGroup

/-- The values in the order in which they are bound. -/
def arguments (numbered : Bool) (params : List (ParamGroup × Value)) : List Value :=
  if numbered then ordered.flatMap fun group => (params.filter (·.1 = group)).map Prod.snd
  else params.map Prod.snd

/-- The number, from one on, of a value of `group` after the values `before` it in the text. -/
def number (numbered : Bool) (params before : List (ParamGroup × Value)) (group : ParamGroup) :
    Nat :=
  if numbered then
    (params.filter (·.1.rank < group.rank)).length + (before.filter (·.1 = group)).length + 1
  else before.length + 1

/-- The numbers of the values `rest`, in the order of the text; `params` are all values of the
statement, and `before` those that stand in front. -/
def numbersFrom (params before : List (ParamGroup × Value)) : List (ParamGroup × Value) → List Nat
  | [] => []
  | param :: rest =>
    number true params before param.1 :: numbersFrom params (before ++ [param]) rest

/-- How many values belong to earlier groups. -/
def below (params : List (ParamGroup × Value)) (group : ParamGroup) : Nat :=
  params.countP (·.1.rank < group.rank)

/-- How many values belong to a group or an earlier one. -/
def upTo (params : List (ParamGroup × Value)) (group : ParamGroup) : Nat :=
  params.countP (·.1.rank ≤ group.rank)

/-- A number counts the values of earlier groups and those of the same group in front. -/
theorem number_eq (params before : List (ParamGroup × Value)) (group : ParamGroup) :
    number true params before group = below params group + before.countP (·.1 = group) + 1 := by
  rw [number, if_pos rfl, below, List.countP_eq_length_filter, List.countP_eq_length_filter]

/-- The values of a group and of earlier ones are those of earlier groups and those of the group. -/
theorem upTo_eq (params : List (ParamGroup × Value)) (group : ParamGroup) :
    upTo params group = below params group + params.countP (·.1 = group) := by
  induction params with
  | nil => rfl
  | cons param rest ih =>
    simp only [upTo, below] at ih
    simp only [upTo, below, List.countP_cons, ih]
    rcases Nat.lt_trichotomy param.1.rank group.rank with hlt | heq | hgt
    · have hne : param.1 ≠ group := fun h => by rw [h] at hlt; omega
      simp only [hlt, Nat.le_of_lt hlt, hne, decide_true, decide_false, reduceIte,
        Bool.false_eq_true]
      omega
    · have hgroup := rank_injective heq
      simp only [hgroup, Nat.lt_irrefl, Nat.le_refl, decide_true, decide_false, reduceIte,
        Bool.false_eq_true]
      omega
    · have hne : param.1 ≠ group := fun h => by rw [h] at hgt; omega
      have hle : ¬ param.1.rank ≤ group.rank := by omega
      have hlt : ¬ param.1.rank < group.rank := by omega
      simp only [hlt, hle, hne, decide_false, reduceIte, Bool.false_eq_true]
      omega

/-- All values of a group come before those of later groups. -/
theorem upTo_le_below (params : List (ParamGroup × Value)) {a b : ParamGroup}
    (h : a.rank < b.rank) : upTo params a ≤ below params b := by
  refine List.countP_mono_left fun param _ hparam => ?_
  simp only [decide_eq_true_eq] at hparam ⊢
  omega

/-- The number of a value lies among those of its group. -/
theorem number_le_upTo (before after : List (ParamGroup × Value)) (param : ParamGroup × Value) :
    number true (before ++ param :: after) before param.1 ≤
      upTo (before ++ param :: after) param.1 := by
  rw [number_eq, upTo_eq, List.countP_append, List.countP_cons]
  simp only [decide_true, if_true]
  omega

/-- A value that stands further on has another number. -/
theorem number_ne (before between after : List (ParamGroup × Value)) (a b : ParamGroup × Value) :
    number true (before ++ a :: (between ++ b :: after)) before a.1 ≠
      number true (before ++ a :: (between ++ b :: after)) (before ++ a :: between) b.1 := by
  have ha := number_le_upTo before (between ++ b :: after) a
  have hb := number_le_upTo (before ++ a :: between) after b
  rw [List.append_assoc, List.cons_append] at hb
  -- from here on only the groups of the two values matter, not where they stand
  generalize before ++ a :: (between ++ b :: after) = params at ha hb ⊢
  rcases Nat.lt_trichotomy a.1.rank b.1.rank with hlt | heq | hgt
  · have hle := upTo_le_below params hlt
    rw [number_eq params (before ++ a :: between)]
    omega
  · -- in one group the later value counts the earlier one
    rw [number_eq, number_eq, List.countP_append, List.countP_cons]
    simp only [rank_injective heq, decide_true, if_true]
    omega
  · have hle := upTo_le_below params hgt
    rw [number_eq params before]
    omega

/-- A number that is listed is that of one of the values. -/
theorem mem_numbersFrom {params before rest : List (ParamGroup × Value)} {n : Nat}
    (h : n ∈ numbersFrom params before rest) :
    ∃ between param after, rest = between ++ param :: after ∧
      n = number true params (before ++ between) param.1 := by
  induction rest generalizing before with
  | nil => exact absurd h List.not_mem_nil
  | cons param rest ih =>
    rw [numbersFrom, List.mem_cons] at h
    rcases h with rfl | h
    · exact ⟨[], param, rest, rfl, by rw [List.append_nil]⟩
    · obtain ⟨between, found, after, rfl, rfl⟩ := ih h
      exact ⟨param :: between, found, after, rfl, by rw [List.append_assoc]; rfl⟩

/-- As many numbers are listed as there are values. -/
theorem length_numbersFrom (params before rest : List (ParamGroup × Value)) :
    (numbersFrom params before rest).length = rest.length := by
  induction rest generalizing before with
  | nil => rfl
  | cons param rest ih => rw [numbersFrom, List.length_cons, ih, List.length_cons]

/-- No number is listed twice. -/
theorem nodup_numbersFrom {params before rest : List (ParamGroup × Value)}
    (h : params = before ++ rest) : (numbersFrom params before rest).Nodup := by
  induction rest generalizing before with
  | nil => exact List.nodup_nil
  | cons param rest ih =>
    rw [numbersFrom, List.nodup_cons]
    refine ⟨fun hmem => ?_, ih (by rw [h, List.append_assoc]; rfl)⟩
    obtain ⟨between, later, after, rfl, heq⟩ := mem_numbersFrom hmem
    rw [List.append_assoc, List.singleton_append, h] at heq
    exact number_ne before between after param later heq

/-- The numbers are those from one up to the number of values, each once. -/
theorem numbersFrom_perm (params : List (ParamGroup × Value)) :
    (numbersFrom params [] params).Perm (List.range' 1 params.length) := by
  have hsub : numbersFrom params [] params ⊆ List.range' 1 params.length := by
    intro n hn
    obtain ⟨before, param, after, hparams, rfl⟩ := mem_numbersFrom hn
    have hle := number_le_upTo before after param
    have hall : upTo params param.1 ≤ params.length := List.countP_le_length
    rw [← hparams] at hle
    rw [List.nil_append, List.mem_range'_1]
    refine ⟨?_, by omega⟩
    rw [number_eq]
    omega
  -- as many different numbers as there are places fill all of them
  have hnodup : (numbersFrom params [] params).Nodup := nodup_numbersFrom rfl
  refine (List.subperm_of_subset hnodup hsub).perm_of_length_le (Nat.le_of_eq ?_)
  rw [List.length_range', length_numbersFrom]

/-! ## Arguments -/

/-- Taken group by group, a value stands among those of its group. -/
theorem perm_groups (group : ParamGroup) (value : Value) (params : List (ParamGroup × Value))
    {groups : List ParamGroup} (hmem : group ∈ groups) (hnodup : groups.Nodup) :
    (groups.flatMap fun g => (((group, value) :: params).filter (·.1 = g)).map Prod.snd).Perm
      (value :: groups.flatMap fun g => (params.filter (·.1 = g)).map Prod.snd) := by
  induction groups with
  | nil => exact absurd hmem List.not_mem_nil
  | cons g groups ih =>
    rw [List.nodup_cons] at hnodup
    rw [List.flatMap_cons, List.flatMap_cons]
    by_cases hg : group = g
    · -- it is the first of its own group, and in none of the others
      subst hg
      have hothers : (groups.flatMap fun g =>
            (((group, value) :: params).filter (·.1 = g)).map Prod.snd) =
          groups.flatMap fun g => (params.filter (·.1 = g)).map Prod.snd := by
        refine List.flatMap_congr fun g hgroups => ?_
        have hne : group ≠ g := fun h => hnodup.1 (h ▸ hgroups)
        simp [hne]
      simp [hothers]
    · have hrest := ih ((List.mem_cons.mp hmem).resolve_left hg) hnodup.2
      have hfirst : ((group, value) :: params).filter (·.1 = g) = params.filter (·.1 = g) := by
        simp [hg]
      rw [hfirst]
      exact (hrest.append_left _).trans List.perm_middle

/-- The arguments are the values of the text, in some order. -/
theorem arguments_perm (numbered : Bool) (params : List (ParamGroup × Value)) :
    (arguments numbered params).Perm (params.map Prod.snd) := by
  cases numbered with
  | false => exact .refl _
  | true =>
    rw [arguments, if_pos rfl]
    induction params with
    | nil => exact .refl _
    | cons param rest ih =>
      have hmem : param.1 ∈ ordered := by cases param.1 <;> decide
      exact (perm_groups param.1 param.2 rest hmem (by decide)).trans (ih.cons param.2)

end RelationalQuery.Fragment
