import RelationalQuery.Proofs.Result
import RelationalQuery.Query.Reader.Arguments

/-!
# What a document of aggregates asks for

Nothing can be asked for in many ways: the key of an aggregate is left out, its list is empty, none
of its flags is set, or rows are counted by the flag `false`. `askedBy_of_ofJson` reads off the
document which of the aggregates come to nothing, and whether the counts are mentioned at all, which
is the one thing that tells these ways apart.

## Shape of the proof

The members of a document are read one after the other into what was read before. Each key sets a
part of its own, which `part_of_foldlM` follows through the whole reading.
-/

namespace RelationalQuery

/-! ## Nothing -/

/-- Whether nothing is asked for but filtered counts: rows are not counted, and there is no field to
count or to apply a function to. -/
structure Aggregates.IsPlainEmpty (a : Aggregates) : Prop where
  count : ∀ counted, a.count = some counted → counted.all = false ∧ counted.fields = []
  avg : a.avg = []
  sum : a.sum = []
  min : a.min = []
  max : a.max = []

/-- Whether a document names no fields: a list without items, or flags of which none is set. -/
inductive Json.NamesNothing : Json → Prop
  | list : NamesNothing (.array [])
  | flags {members : List (String × Json)} (unset : ∀ member ∈ members, member.2 ≠ .bool true) :
    NamesNothing (.object members)

/-- Whether a document counts nothing: a flag that is not set, or no fields. -/
inductive Json.CountsNothing : Json → Prop
  | unset : CountsNothing (.bool false)
  | fields {json : Json} (names : json.NamesNothing) : CountsNothing json

/-- The functions by their keys, with the fields that they are applied to. -/
def Aggregates.functions : List (String × (Aggregates → List String)) :=
  [("_avg", avg), ("_sum", sum), ("_min", min), ("_max", max)]

/-- What is asked for, by the members of the document that asks for it. -/
structure Aggregates.AskedBy (members : Dict Json) (a : Aggregates) : Prop where
  mentioned : a.count = none ↔ "_count" ∉ members.keys
  plain : a.IsPlainEmpty ↔ (∀ json, ("_count", json) ∈ members → json.CountsNothing) ∧
    ∀ function ∈ functions, ∀ json, (function.1, json) ∈ members → json.NamesNothing
  filtered : a.filtered = [] ↔
    ∀ json, ("_countFiltered", json) ∈ members → json = .array [] ∨ json = .object []

namespace Aggregates

variable {members : Dict Json} {key : String} {json : Json} {start a : Aggregates}

theorem isPlainEmpty_iff : a.IsPlainEmpty ↔
    (∀ counted, a.count = some counted → counted.all = false ∧ counted.fields = []) ∧
      ∀ function ∈ functions, function.2 a = [] := by
  simp only [functions, List.forall_mem_cons]
  constructor
  · rintro ⟨hcount, havg, hsum, hmin, hmax⟩
    exact ⟨hcount, havg, hsum, hmin, hmax, List.forall_mem_nil _⟩
  · rintro ⟨hcount, havg, hsum, hmin, hmax, -⟩
    exact ⟨hcount, havg, hsum, hmin, hmax⟩

/-! ## Parts of a document -/

/-- No field is flagged if no flag is set. -/
theorem flagged_eq_nil_iff : flagged members = [] ↔ ∀ member ∈ members, member.2 ≠ .bool true := by
  rw [flagged, List.filterMap_eq_nil_iff]
  refine forall₂_congr fun member _ => ?_
  split
  · next hset => simp [hset]
  · next hother => exact iff_of_true rfl hother

/-- The fields that are read come to none if the document names none. -/
theorem fields_eq_nil_iff {fields : List String} (h : readFields key json = .ok fields) :
    fields = [] ↔ json.NamesNothing := by
  cases json with
  | array items =>
    cases items with
    | nil =>
      obtain rfl : [] = fields := Except.ok.inj h
      exact iff_of_true rfl .list
    | cons item rest =>
      rw [readFields, List.mapM_cons, bind_eq_ok_iff] at h
      obtain ⟨first, -, h⟩ := h
      obtain ⟨others, -, h⟩ := bind_eq_ok_iff.mp h
      obtain rfl : first :: others = fields := Except.ok.inj h
      refine iff_of_false (List.cons_ne_nil _ _) ?_
      rintro ⟨⟩
  | object flags =>
    obtain rfl : flagged flags = fields := Except.ok.inj h
    rw [flagged_eq_nil_iff]
    constructor
    · exact .flags
    · rintro ⟨⟩
      assumption
  | _ => cases h

/-- A count comes to nothing if the document counts nothing. -/
theorem counted_iff {counted : CountSelection} (h : readCount json = .ok counted) :
    counted.all = false ∧ counted.fields = [] ↔ json.CountsNothing := by
  cases json with
  | bool all =>
    obtain rfl : { all } = counted := Except.ok.inj h
    cases all with
    | false => exact iff_of_true ⟨rfl, rfl⟩ .unset
    | true =>
      refine iff_of_false (fun hnone => Bool.noConfusion hnone.1) ?_
      rintro (_ | ⟨⟨⟩⟩)
  | object flags =>
    obtain rfl := Except.ok.inj h
    have hnames : ((flagged flags).contains "_all" = false ∧
        (flagged flags).filter (· ≠ "_all") = []) ↔ flagged flags = [] := by
      constructor
      · rintro ⟨hall, hfields⟩
        rw [List.eq_nil_iff_forall_not_mem]
        intro name hname
        have hother : ¬ name ≠ "_all" := by
          have hfilter := List.filter_eq_nil_iff.mp hfields name hname
          simpa using hfilter
        rw [Classical.not_not] at hother
        subst hother
        rw [List.contains_iff_mem.mpr hname] at hall
        cases hall
      · intro hnone
        rw [hnone]
        exact ⟨rfl, rfl⟩
    refine hnames.trans (flagged_eq_nil_iff.trans ⟨fun hunset => .fields (.flags hunset), ?_⟩)
    rintro (_ | ⟨⟨⟩⟩)
    assumption
  | array items =>
    rw [readCount, bind_eq_ok_iff] at h
    obtain ⟨fields, hfields, h⟩ := h
    obtain rfl := Except.ok.inj h
    refine (and_iff_right rfl).trans ((fields_eq_nil_iff hfields).trans ⟨.fields, ?_⟩)
    rintro (_ | hnames)
    exact hnames
  | _ => cases h

/-- The filtered counts that are read come to none if the document lists none. -/
theorem filtered_eq_nil_iff {filtered : List (String × Filter)}
    (h : readFiltered json = .ok filtered) :
    filtered = [] ↔ json = .array [] ∨ json = .object [] := by
  cases json with
  | array items =>
    rw [readFiltered] at h
    simpa using eq_nil_iff_of_mapM h
  | object entries =>
    rw [readFiltered] at h
    simpa using eq_nil_iff_of_mapM h
  | _ => cases h

/-- What holds without a key, and by its member with it, is told by all members under the key. -/
theorem iff_forall_of_key {nothing : Prop} {p : Json → Prop} (habsent : key ∉ members.keys → nothing)
    (hpresent : ∀ json, (key, json) ∈ members → (nothing ↔ p json)) :
    nothing ↔ ∀ json, (key, json) ∈ members → p json := by
  refine ⟨fun h json hmem => (hpresent json hmem).mp h, fun h => ?_⟩
  by_cases hkey : key ∈ members.keys
  · obtain ⟨⟨name, json⟩, hmem, rfl⟩ := List.mem_map.mp hkey
    exact (hpresent json hmem).mpr (h json hmem)
  · exact habsent hkey

/-! ## Members one after the other -/

/-- What one member of a document does to what was read before it: it sets the part of its key. -/
inductive Sets (sofar : Aggregates) (key : String) (json : Json) : Aggregates → Prop
  | count {counted : CountSelection} (name : key = "_count") (read : readCount json = .ok counted) :
    Sets sofar key json { sofar with count := some counted }
  | avg {fields : List String} (name : key = "_avg") (read : readFields key json = .ok fields) :
    Sets sofar key json { sofar with avg := fields }
  | sum {fields : List String} (name : key = "_sum") (read : readFields key json = .ok fields) :
    Sets sofar key json { sofar with sum := fields }
  | min {fields : List String} (name : key = "_min") (read : readFields key json = .ok fields) :
    Sets sofar key json { sofar with min := fields }
  | max {fields : List String} (name : key = "_max") (read : readFields key json = .ok fields) :
    Sets sofar key json { sofar with max := fields }
  | filtered {counts : List (String × Filter)} (name : key = "_countFiltered")
    (read : readFiltered json = .ok counts) : Sets sofar key json { sofar with filtered := counts }

theorem sets_of_readEntry {sofar : Aggregates} (h : readEntry sofar key json = .ok a) :
    Sets sofar key json a := by
  unfold readEntry at h
  split at h
  case h_7 => cases h
  all_goals
    obtain ⟨part, hpart, h⟩ := bind_eq_ok_iff.mp h
    obtain rfl := Except.ok.inj h
  · exact .count rfl hpart
  · exact .avg rfl hpart
  · exact .sum rfl hpart
  · exact .min rfl hpart
  · exact .max rfl hpart
  · exact .filtered rfl hpart

/-- Each function is applied to what the member under its key names, and to no other fields. -/
theorem function_of_sets {sofar : Aggregates} {name : String} {part : Aggregates → List String}
    (h : Sets sofar name json a) (hpart : (key, part) ∈ functions) :
    (name = key → readFields name json = .ok (part a)) ∧ (name ≠ key → part a = part sofar) := by
  simp only [functions, List.mem_cons, List.not_mem_nil, or_false, Prod.mk.injEq] at hpart
  rcases hpart with ⟨rfl, rfl⟩ | ⟨rfl, rfl⟩ | ⟨rfl, rfl⟩ | ⟨rfl, rfl⟩ <;>
    cases h with
    | _ name read =>
      subst name
      refine ⟨fun hname => ?_, fun hname => ?_⟩
      · first
        | exact read
        | exact absurd hname (by decide)
      · first
        | exact absurd rfl hname
        | rfl

section Parts

variable (hkeys : members.keys.Nodup) (h : ofJson (.object members) = .ok a)

include hkeys h

theorem count_of_ofJson : ("_count" ∉ members.keys → a.count = none) ∧
    ∀ json, ("_count", json) ∈ members → some <$> readCount json = .ok a.count := by
  refine part_of_foldlM count ?_ ?_ hkeys h
  · intro sofar json after hread
    cases sets_of_readEntry hread with
    | count name read => exact map_eq_ok_iff.mpr ⟨_, read, rfl⟩
    | _ name => exact absurd name (by decide)
  · intro sofar other json after hother hread
    cases sets_of_readEntry hread with
    | count name => exact absurd name hother
    | _ => rfl

theorem filtered_of_ofJson : ("_countFiltered" ∉ members.keys → a.filtered = []) ∧
    ∀ json, ("_countFiltered", json) ∈ members → readFiltered json = .ok a.filtered := by
  refine part_of_foldlM filtered ?_ ?_ hkeys h
  · intro sofar json after hread
    cases sets_of_readEntry hread with
    | filtered name read => exact read
    | _ name => exact absurd name (by decide)
  · intro sofar other json after hother hread
    cases sets_of_readEntry hread with
    | filtered name => exact absurd name hother
    | _ => rfl

theorem function_of_ofJson {part : Aggregates → List String} (hpart : (key, part) ∈ functions) :
    (key ∉ members.keys → part a = []) ∧
      ∀ json, (key, json) ∈ members → readFields key json = .ok (part a) := by
  obtain ⟨habsent, hpresent⟩ := part_of_foldlM part
    (fun _ _ _ hread => (function_of_sets (sets_of_readEntry hread) hpart).1 rfl)
    (fun _ _ _ _ hother hread => (function_of_sets (sets_of_readEntry hread) hpart).2 hother) hkeys h
  refine ⟨fun hnone => (habsent hnone).trans ?_, hpresent⟩
  simp only [functions, List.mem_cons, List.not_mem_nil, or_false, Prod.mk.injEq] at hpart
  rcases hpart with ⟨-, rfl⟩ | ⟨-, rfl⟩ | ⟨-, rfl⟩ | ⟨-, rfl⟩ <;> rfl

/-- What was read from a document is asked for by its members. -/
theorem askedBy_of_ofJson : AskedBy members a where
  mentioned := by
    obtain ⟨habsent, hpresent⟩ := count_of_ofJson hkeys h
    refine ⟨fun hnone hmem => ?_, habsent⟩
    obtain ⟨⟨name, json⟩, hentry, rfl⟩ := List.mem_map.mp hmem
    obtain ⟨counted, -, hcounted⟩ := map_eq_ok_iff.mp (hpresent json hentry)
    rw [hnone] at hcounted
    cases hcounted
  plain := by
    obtain ⟨habsent, hpresent⟩ := count_of_ofJson hkeys h
    rw [isPlainEmpty_iff]
    refine and_congr (iff_forall_of_key ?_ ?_) (forall₂_congr fun function hfunction => ?_)
    · intro hnone counted hcounted
      rw [habsent hnone] at hcounted
      cases hcounted
    · intro json hmem
      obtain ⟨counted, hread, hcounted⟩ := map_eq_ok_iff.mp (hpresent json hmem)
      rw [← hcounted, ← counted_iff hread]
      simp only [Option.some.injEq, forall_eq']
    · obtain ⟨habsent, hpresent⟩ := function_of_ofJson hkeys h hfunction
      exact iff_forall_of_key habsent fun json hmem => fields_eq_nil_iff (hpresent json hmem)
  filtered := by
    obtain ⟨habsent, hpresent⟩ := filtered_of_ofJson hkeys h
    exact iff_forall_of_key habsent fun json hmem => filtered_eq_nil_iff (hpresent json hmem)

end Parts

end Aggregates

end RelationalQuery
