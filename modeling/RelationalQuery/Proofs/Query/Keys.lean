import Mathlib.Tactic.SplitIfs
import RelationalQuery.Query.Operator

/-!
# Keys of operators

A connective, a quantifier or a comparison is found under a key if and only if that is its own key.
Whether a key is one of an operator is stated by the operators, and decided by looking the key up.
-/

namespace RelationalQuery

/-- Whether a key is that of a connective. -/
def IsConnectiveKey (key : String) : Prop := ∃ connective : Connective, connective.key = key

/-- Whether a key is that of a quantifier. -/
def IsQuantifierKey (key : String) : Prop := ∃ quantifier : Quantifier, quantifier.key = key

/-- Whether a key is that of a comparison. -/
def IsComparisonKey (key : String) : Prop := ∃ op : Comparison, op.key = key

variable {key : String}

/-! ## Connectives -/

theorem Connective.ofKey?_eq_some_iff {connective : Connective} :
    Connective.ofKey? key = some connective ↔ connective.key = key := by
  refine ⟨fun h => ?_, fun h => h ▸ Connective.ofKey?_key connective⟩
  unfold Connective.ofKey? at h
  split_ifs at h with hall hany hnot <;> obtain rfl := Option.some.inj h
  · exact hall.symm
  · exact hany.symm
  · exact hnot.symm

theorem Connective.isSome_ofKey?_iff : (Connective.ofKey? key).isSome ↔ IsConnectiveKey key := by
  simp only [Option.isSome_iff_exists, Connective.ofKey?_eq_some_iff, IsConnectiveKey]

theorem Connective.ofKey?_eq_none_iff : Connective.ofKey? key = none ↔ ¬ IsConnectiveKey key := by
  rw [← Connective.isSome_ofKey?_iff, Option.not_isSome_iff_eq_none]

instance : Decidable (IsConnectiveKey key) := decidable_of_iff _ Connective.isSome_ofKey?_iff

/-! ## Quantifiers -/

theorem Quantifier.ofKey?_eq_some_iff {quantifier : Quantifier} :
    Quantifier.ofKey? key = Option.some quantifier ↔ quantifier.key = key := by
  refine ⟨fun h => ?_, fun h => h ▸ Quantifier.ofKey?_key quantifier⟩
  unfold Quantifier.ofKey? at h
  split_ifs at h with hsome hevery hnone <;> obtain rfl := Option.some.inj h
  · exact hsome.symm
  · exact hevery.symm
  · exact hnone.symm

theorem Quantifier.isSome_ofKey?_iff : (Quantifier.ofKey? key).isSome ↔ IsQuantifierKey key := by
  simp only [Option.isSome_iff_exists, Quantifier.ofKey?_eq_some_iff, IsQuantifierKey]

theorem Quantifier.ofKey?_eq_none_iff :
    Quantifier.ofKey? key = Option.none ↔ ¬ IsQuantifierKey key := by
  rw [← Quantifier.isSome_ofKey?_iff, Option.not_isSome_iff_eq_none]

instance : Decidable (IsQuantifierKey key) := decidable_of_iff _ Quantifier.isSome_ofKey?_iff

/-! ## Comparisons -/

/-- What is found under a key in a list of keyed comparisons is listed with that key. -/
theorem Comparison.mem_of_get? {listed : List (String × Comparison)} {op : Comparison}
    (h : Dict.get? listed key = some op) : (key, op) ∈ listed := by
  induction listed with
  | nil => cases h
  | cons entry rest ih =>
    obtain ⟨k, v⟩ := entry
    rw [Dict.get?_cons] at h
    by_cases hk : k = key
    · rw [if_pos hk] at h
      rw [hk, Option.some.inj h]
      exact List.mem_cons_self
    · rw [if_neg hk] at h
      exact List.mem_cons_of_mem _ (ih h)

theorem Comparison.ofKey?_eq_some_iff {op : Comparison} :
    Comparison.ofKey? key = some op ↔ op.key = key := by
  have hkeyed : ∀ entry ∈ Comparison.keyed, entry.2.key = entry.1 := by decide
  exact ⟨fun h => hkeyed _ (Comparison.mem_of_get? h), fun h => h ▸ Comparison.ofKey?_key op⟩

theorem Comparison.isSome_ofKey?_iff : (Comparison.ofKey? key).isSome ↔ IsComparisonKey key := by
  simp only [Option.isSome_iff_exists, Comparison.ofKey?_eq_some_iff, IsComparisonKey]

theorem Comparison.ofKey?_eq_none_iff : Comparison.ofKey? key = none ↔ ¬ IsComparisonKey key := by
  rw [← Comparison.isSome_ofKey?_iff, Option.not_isSome_iff_eq_none]

instance : Decidable (IsComparisonKey key) := decidable_of_iff _ Comparison.isSome_ofKey?_iff

end RelationalQuery
