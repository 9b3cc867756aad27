import RelationalQuery.Compile.Include
import RelationalQuery.Proofs.Sql.Scan

/-!
# Fresh names

`freshName` keeps its promise: among one more candidates than there are used names one is free, as no
two candidates are the same. The numbered aliases of joined tables are different for the same reason.
-/

namespace RelationalQuery.Compile

/-- Numbers with the same text are the same. -/
theorem toString_injective {m n : Nat} (h : toString m = toString n) : m = n := by
  have hread (k : Nat) : leadingNumber ((toString k).toList ++ []) = k :=
    leadingNumber_toString k rfl
  rw [← hread m, h, hread n]

/-- A numbered candidate is longer than the name itself. -/
theorem candidate_succ_ne (base : String) (n : Nat) : candidate base (n + 1) ≠ base := by
  intro h
  have hlength := congrArg (fun text => text.toList.length) h
  have htext : candidate base (n + 1) = base ++ "_" ++ toString (n + 1) := by
    rw [candidate, if_neg (Nat.succ_ne_zero n)]
    rfl
  simp only [htext, String.toList_append, List.length_append] at hlength
  have hone : "_".toList.length = 1 := rfl
  omega

/-- No two candidates for a name are the same. -/
theorem candidate_injective {base : String} {m n : Nat} (h : candidate base m = candidate base n) :
    m = n := by
  cases m with
  | zero =>
    cases n with
    | zero => rfl
    | succ n => exact absurd h.symm (candidate_succ_ne base n)
  | succ m =>
    cases n with
    | zero => exact absurd h (candidate_succ_ne base m)
    | succ n =>
      rw [candidate, candidate, if_neg (Nat.succ_ne_zero m), if_neg (Nat.succ_ne_zero n)] at h
      exact toString_injective ((String.append_right_inj _).mp h)

/-- A fresh name is not used. -/
theorem freshName_notMem (used : List String) (base : String) : freshName used base ∉ used := by
  rw [freshName]
  split
  · next n hfound =>
    have hunused := List.find?_some hfound
    simpa using hunused
  · next hnone =>
    -- all candidates would be used, though there are more of them than used names
    exfalso
    have hused : (List.range (used.length + 1)).map (candidate base) ⊆ used := by
      intro name hname
      obtain ⟨n, hn, rfl⟩ := List.mem_map.mp hname
      have hcontains := List.find?_eq_none.mp hnone n hn
      simpa using hcontains
    have hnodup : ((List.range (used.length + 1)).map (candidate base)).Nodup := by
      rw [List.Nodup, List.pairwise_map]
      refine List.Pairwise.imp ?_ List.nodup_range
      exact fun hne h => hne (candidate_injective h)
    have hlength := hnodup.length_le_of_subset hused
    rw [List.length_map, List.length_range] at hlength
    omega

/-- A candidate starts with the name itself. -/
theorem prefix_candidate (base : String) (n : Nat) : base.toList <+: (candidate base n).toList := by
  rw [candidate]
  split
  · exact List.prefix_refl _
  · rw [show s!"{base}_{n}" = base ++ ("_" ++ toString n) from String.append_assoc ..,
      String.toList_append]
    exact List.prefix_append _ _

/-- A fresh name starts with the name that was asked for. -/
theorem prefix_freshName (used : List String) (base : String) :
    base.toList <+: (freshName used base).toList := by
  rw [freshName]
  split
  · exact prefix_candidate base _
  · exact List.prefix_refl _

/-! ## Numbered aliases -/

/-- Aliases of tables with different numbers are different. -/
theorem tableAlias_injective {m n : Nat} (h : tableAlias m = tableAlias n) : m = n :=
  toString_injective ((String.append_right_inj "t").mp h)

/-- Aliases of join tables with different numbers are different. -/
theorem junctionAlias_injective {m n : Nat} (h : junctionAlias m = junctionAlias n) : m = n :=
  toString_injective ((String.append_right_inj "j").mp h)

/-- No alias of a table is one of a join table. -/
theorem tableAlias_ne_junctionAlias (m n : Nat) : tableAlias m ≠ junctionAlias n := by
  intro h
  have hhead := congrArg (fun text => text.toList.head?) h
  rw [show tableAlias m = "t" ++ toString m from rfl,
    show junctionAlias n = "j" ++ toString n from rfl] at hhead
  simp only [String.toList_append] at hhead
  exact absurd (Option.some.inj hhead) (by decide)

end RelationalQuery.Compile
