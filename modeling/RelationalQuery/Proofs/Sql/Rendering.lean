import RelationalQuery.Proofs.Sql.Numbering
import RelationalQuery.Sql.Statement

/-!
# The pass that renders a fragment

A fragment is rendered by a pass that looks up the numbers of values and puts the values into slots.
What comes out of it is told without the pass (`render_eq`): `renderFrom` writes each value with the
number that it has by counting, and the arguments are taken group by group.

## Shape of the proof

`bindingOrder` lists the values in the order in which they are bound, each with its place in the
text. The places that are put in order before the pass are the places of this list
(`bindingPlaces_eq`). They are inverted by writing numbers to places: no place is written twice, so
each keeps its number (`getElem?_numbersOf`), which is the one that counting gives
(`getElem?_bindingOrder`). Then the invariant of the pass is that the slots of the values it has met
hold these values, and that the others are still empty (`slotsUpTo`).
-/

namespace RelationalQuery.Fragment

open ParamGroup

/-- The text of the pieces after the values `before`; `params` are all values of the statement. -/
def renderFrom (d : Dialect) (params before : List (ParamGroup × Value)) : Fragment → String
  | [] => ""
  | .text words :: rest => words ++ renderFrom d params before rest
  | .name identifier :: rest => d.quote identifier ++ renderFrom d params before rest
  | .param group value :: rest =>
    d.placeholder (number d.isNumbered params before group) ++
      renderFrom d params (before ++ [(group, value)]) rest

/-! ## The order of the arguments -/

/-- The values in the order in which they are bound, each with its group and with how many values
stand in front of it in the text. -/
def bindingOrder (numbered : Bool) (params : List (ParamGroup × Value)) :
    List ((ParamGroup × Value) × Nat) :=
  if numbered then sorted (·.1.1) params.zipIdx else params.zipIdx

/-- Numbered arguments are the values sorted by group. -/
theorem arguments_eq_sorted (params : List (ParamGroup × Value)) :
    arguments true params = (sorted Prod.fst params).map Prod.snd := by
  rw [sorted_eq, List.map_flatMap]
  rfl

/-- The arguments are the values in the order in which they are bound. -/
theorem arguments_eq_bindingOrder (numbered : Bool) (params : List (ParamGroup × Value)) :
    arguments numbered params = (bindingOrder numbered params).map (·.1.2) := by
  have hvalue : (fun entry : (ParamGroup × Value) × Nat => entry.1.2) = Prod.snd ∘ Prod.fst := rfl
  cases numbered with
  | false =>
    rw [bindingOrder, hvalue, ← List.map_map, if_neg Bool.false_ne_true, List.zipIdx_map_fst]
    rfl
  | true =>
    have hsorted : (sorted (·.1.1) params.zipIdx).map Prod.fst = sorted Prod.fst params := by
      have hmap := map_sorted Prod.fst Prod.fst params.zipIdx
      rw [List.zipIdx_map_fst] at hmap
      exact hmap
    rw [bindingOrder, hvalue, ← List.map_map, if_pos rfl, hsorted, arguments_eq_sorted]

/-- The number of a value, counted from one, is its place in the order in which they are bound. -/
theorem getElem?_bindingOrder (numbered : Bool) (before after : List (ParamGroup × Value))
    (param : ParamGroup × Value) :
    ∃ n, number numbered (before ++ param :: after) before param.1 = n + 1 ∧
      (bindingOrder numbered (before ++ param :: after))[n]? = some (param, before.length) := by
  have hzip : (before ++ param :: after).zipIdx =
      before.zipIdx ++ (param, before.length) :: after.zipIdx (before.length + 1) := by
    rw [List.zipIdx_append, List.zipIdx_cons, Nat.zero_add]
  cases numbered with
  | false =>
    refine ⟨before.length, rfl, ?_⟩
    rw [bindingOrder, if_neg Bool.false_ne_true, hzip,
      List.getElem?_append_right (Nat.le_of_eq List.length_zipIdx), List.length_zipIdx,
      Nat.sub_self]
    rfl
  | true =>
    refine ⟨_, number_eq _ _ _, ?_⟩
    have hplace := getElem?_sorted (fun entry : (ParamGroup × Value) × Nat => entry.1.1)
      before.zipIdx (after.zipIdx (before.length + 1)) (param, before.length)
    -- the places in the text are of no account for the counts
    have hcount (p : ParamGroup → Bool) (params : List (ParamGroup × Value)) :
        params.zipIdx.countP (fun entry => p entry.1.1) = params.countP fun param => p param.1 := by
      have hmap := List.countP_map (p := fun param : ParamGroup × Value => p param.1)
        (f := Prod.fst) (l := params.zipIdx)
      rw [List.zipIdx_map_fst] at hmap
      exact hmap.symm
    rw [← hzip, hcount fun g => g.rank < param.1.rank, hcount fun g => g = param.1] at hplace
    rw [bindingOrder, if_pos rfl]
    exact hplace

/-- The values are bound in some order. -/
theorem bindingOrder_perm (numbered : Bool) (params : List (ParamGroup × Value)) :
    (bindingOrder numbered params).Perm params.zipIdx := by
  rw [bindingOrder]
  split
  · exact sorted_perm _ _
  · exact .refl _

/-- No value is bound twice. -/
theorem nodup_bindingOrder (numbered : Bool) (params : List (ParamGroup × Value)) :
    ((bindingOrder numbered params).map Prod.snd).Nodup := by
  rw [((bindingOrder_perm numbered params).map Prod.snd).nodup_iff, List.zipIdx_map_snd]
  exact List.nodup_range'

/-- As many values are bound as there are. -/
theorem length_bindingOrder (numbered : Bool) (params : List (ParamGroup × Value)) :
    (bindingOrder numbered params).length = params.length :=
  (bindingOrder_perm numbered params).length_eq.trans List.length_zipIdx

/-- The place of a value in the text is one of those that there are. -/
theorem snd_lt_of_mem_bindingOrder {numbered : Bool} {params : List (ParamGroup × Value)}
    {entry : (ParamGroup × Value) × Nat} (h : entry ∈ bindingOrder numbered params) :
    entry.2 < params.length :=
  List.snd_lt_of_mem_zipIdx ((bindingOrder_perm numbered params).mem_iff.mp h)

/-! ## The numbers of the values -/

/-- The places that are put in order are those of the values in the order of their arguments. -/
theorem bindingPlaces_eq (numbered : Bool) (params : List (ParamGroup × Value)) :
    bindingPlaces numbered (params.map Prod.fst) =
      (bindingOrder numbered params).map Prod.snd := by
  cases numbered with
  | false =>
    rw [bindingPlaces, bindingOrder, if_neg Bool.false_ne_true, if_neg Bool.false_ne_true,
      List.zipIdx_map_snd, List.length_map, List.range_eq_range']
  | true =>
    have hgroups : (params.map Prod.fst).zipIdx = params.zipIdx.map (Prod.map Prod.fst id) :=
      List.zipIdx_map
    have hsorted := map_sorted Prod.fst (Prod.map Prod.fst id) params.zipIdx
    have hinserted : sortByKey (·.1.rank) (params.zipIdx.map (Prod.map Prod.fst id)) =
      sorted Prod.fst (params.zipIdx.map (Prod.map Prod.fst id)) := sortByKey_eq_mergeSort _ _
    rw [bindingPlaces, bindingOrder, if_pos rfl, if_pos rfl, hgroups, hinserted, ← hsorted,
      List.map_map]
    rfl

section Scatter

variable {entries : List (Nat × Nat)} {numbers : List Nat}

/-- A place to which nothing is written keeps its number. -/
theorem getElem?_foldl_set_of_not_mem {place : Nat} (h : place ∉ entries.map Prod.fst) :
    (entries.foldl (fun numbers entry => numbers.set entry.1 (entry.2 + 1)) numbers)[place]? =
      numbers[place]? := by
  induction entries generalizing numbers with
  | nil => rfl
  | cons first rest ih =>
    rw [List.map_cons, List.mem_cons, not_or] at h
    rw [List.foldl_cons, ih h.2, List.getElem?_set_ne (Ne.symm h.1)]

/-- A place to which one number is written has this number. -/
theorem getElem?_foldl_set_of_mem {entry : Nat × Nat} (hmem : entry ∈ entries)
    (hnodup : (entries.map Prod.fst).Nodup) (hlt : entry.1 < numbers.length) :
    (entries.foldl (fun numbers entry => numbers.set entry.1 (entry.2 + 1)) numbers)[entry.1]? =
      some (entry.2 + 1) := by
  induction entries generalizing numbers with
  | nil => exact absurd hmem List.not_mem_nil
  | cons first rest ih =>
    rw [List.map_cons, List.nodup_cons] at hnodup
    rw [List.foldl_cons]
    rcases List.mem_cons.mp hmem with rfl | hmem
    · rw [getElem?_foldl_set_of_not_mem hnodup.1, List.getElem?_set_self hlt]
    · exact ih hmem hnodup.2 (by rwa [List.length_set])

/-- The number of a value is its place in the order of the arguments, counted from one. -/
theorem getElem?_numbersOf {places : List Nat} {n place : Nat} (hnodup : places.Nodup)
    (hplace : places[n]? = some place) (hlt : place < places.length) :
    (numbersOf places)[place]? = some (n + 1) := by
  have hmem : (place, n) ∈ places.zipIdx := List.mem_zipIdx_iff_getElem?.mpr hplace
  refine getElem?_foldl_set_of_mem hmem ?_ ?_
  · rwa [List.zipIdx_map_fst]
  · rwa [List.length_replicate]

end Scatter

/-- The pass finds for a value the number of its place in the order of the arguments. -/
theorem getElem?_numbersOf_bindingPlaces {numbered : Bool} {params : List (ParamGroup × Value)}
    {param : ParamGroup × Value} {n place : Nat}
    (h : (bindingOrder numbered params)[n]? = some (param, place)) :
    (numbersOf (bindingPlaces numbered (params.map Prod.fst)))[place]? = some (n + 1) := by
  rw [bindingPlaces_eq]
  refine getElem?_numbersOf (nodup_bindingOrder numbered params) ?_ ?_
  · rw [List.getElem?_map, h, Option.map_some]
  · rw [List.length_map, length_bindingOrder]
    exact snd_lt_of_mem_bindingOrder (List.mem_of_getElem? h)

/-! ## The slots of the arguments -/

/-- The slots when the pass has met this many values. -/
def slotsUpTo (numbered : Bool) (params : List (ParamGroup × Value)) (met : Nat) :
    List (Option Value) :=
  (bindingOrder numbered params).map fun entry => if entry.2 < met then some entry.1.2 else none

section Slots

variable {numbered : Bool} {params : List (ParamGroup × Value)}

/-- Before the pass all slots are empty. -/
theorem slotsUpTo_zero : slotsUpTo numbered params 0 = List.replicate params.length none := by
  simp only [slotsUpTo, Nat.not_lt_zero, if_false, List.map_const', length_bindingOrder]

/-- After the pass they hold the arguments. -/
theorem slotsUpTo_length :
    slotsUpTo numbered params params.length = (arguments numbered params).map some := by
  rw [arguments_eq_bindingOrder, List.map_map]
  exact List.map_congr_left fun entry hentry => if_pos (snd_lt_of_mem_bindingOrder hentry)

/-- The next value fills its slot and leaves the others. -/
theorem set_slotsUpTo {n met : Nat} {param : ParamGroup × Value}
    (h : (bindingOrder numbered params)[n]? = some (param, met)) :
    (slotsUpTo numbered params met).set n (some param.2) = slotsUpTo numbered params (met + 1) := by
  refine List.ext_getElem? fun i => ?_
  simp only [slotsUpTo, List.getElem?_set, List.getElem?_map, List.length_map]
  have hlt : n < (bindingOrder numbered params).length := (List.getElem?_eq_some_iff.mp h).1
  by_cases hi : n = i
  · subst hi
    rw [if_pos rfl, if_pos hlt, h, Option.map_some, if_pos (Nat.lt_succ_self met)]
  · -- in another slot is the value of another place
    rw [if_neg hi]
    cases hentry : (bindingOrder numbered params)[i]? with
    | none => rfl
    | some entry =>
      have hne : entry.2 ≠ met := fun heq => hi <| by
        refine (List.getElem?_inj (by rwa [List.length_map])
          (nodup_bindingOrder numbered params)).mp ?_
        rw [List.getElem?_map, List.getElem?_map, h, hentry, Option.map_some, Option.map_some, heq]
      have hiff : entry.2 < met ↔ entry.2 < met + 1 := by omega
      simp only [Option.map_some, hiff]

end Slots

/-! ## The pass -/

/-- From a value on, the pass writes its text and fills the slots that are empty. -/
theorem foldl_push {d : Dialect} {params : List (ParamGroup × Value)} {f : Fragment}
    (before : List (ParamGroup × Value)) (h : params = before ++ f.params) (text : String) :
    f.foldl (Rendering.push d (numbersOf (bindingPlaces d.isNumbered (params.map Prod.fst))))
        { text, slots := slotsUpTo d.isNumbered params before.length, met := before.length } =
      { text := text ++ renderFrom d params before f
        slots := slotsUpTo d.isNumbered params params.length
        met := params.length } := by
  induction f generalizing before text with
  | nil =>
    rw [Fragment.params, List.append_nil] at h
    rw [List.foldl_nil, renderFrom, String.append_empty, h]
  | cons piece rest ih =>
    rw [List.foldl_cons]
    cases piece with
    | text words =>
      rw [Rendering.push, ih before h, renderFrom, String.append_assoc]
    | name identifier =>
      rw [Rendering.push, ih before h, renderFrom, String.append_assoc]
    | param group value =>
      have hrest : params = (before ++ [(group, value)]) ++ Fragment.params rest := by
        rw [h, List.append_assoc]
        rfl
      obtain ⟨n, hn, hplace⟩ :=
        getElem?_bindingOrder d.isNumbered before (Fragment.params rest) (group, value)
      rw [show before ++ (group, value) :: Fragment.params rest = params from h.symm] at hn hplace
      have hmet : before.length + 1 = (before ++ [(group, value)]).length := by
        rw [List.length_append, List.length_singleton]
      rw [Rendering.push, getElem?_numbersOf_bindingPlaces hplace, Option.getD_some,
        Nat.add_sub_cancel, set_slotsUpTo hplace, hmet, ih _ hrest, renderFrom, hn,
        String.append_assoc]

/-- A fragment is rendered to the text with the numbers that counting gives and to the arguments in
the order of their groups. -/
theorem render_eq (d : Dialect) (f : Fragment) :
    f.render d = (renderFrom d f.params [] f, arguments d.isNumbered f.params) := by
  have hpass := foldl_push (d := d) (f := f) [] rfl ""
  rw [List.length_nil, slotsUpTo_zero, slotsUpTo_length, List.nil_append] at hpass
  rw [render, List.length_map, hpass, String.empty_append, List.filterMap_map]
  simp

/-- The statement of a fragment has this text and these arguments, each with its tag. -/
theorem ofFragment_eq (d : Dialect) (returnsRows : Bool) (f : Fragment) :
    Statement.ofFragment d returnsRows f =
      { sql := renderFrom d f.params [] f, args := arguments d.isNumbered f.params, returnsRows } := by
  rw [Statement.ofFragment, render_eq]

theorem sql_ofFragment (d : Dialect) (returnsRows : Bool) (f : Fragment) :
    (Statement.ofFragment d returnsRows f).sql = renderFrom d f.params [] f := by
  rw [ofFragment_eq]

theorem args_ofFragment (d : Dialect) (returnsRows : Bool) (f : Fragment) :
    (Statement.ofFragment d returnsRows f).args = arguments d.isNumbered f.params := by
  rw [ofFragment_eq]

end RelationalQuery.Fragment
