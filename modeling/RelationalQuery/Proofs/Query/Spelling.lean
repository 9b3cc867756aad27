import RelationalQuery.Proofs.Query.Keys
import RelationalQuery.Proofs.Result
import RelationalQuery.Proofs.Value.Plain
import RelationalQuery.Query.Reader.Filter

/-!
# Filters and the documents that spell them

A filter is built from parts or read from a document. `spells` says that these are two spellings of
one thing. A filter whose values a document can say, and whose criteria stand where a document can
put them, is read back from the document that spells it; and every document of the shape of a filter
is read, as such a filter, while no other document is.

## Shape of the language

`Json.IsFilter` is the grammar of the documents: what stands under the key of a connective is told
from what stands under other keys, and there an object with the key of a quantifier from one
without. `Filter.IsExpressible` is the same distinction on the side of filters. Neither mentions the
reader, nor the paths that it puts into its errors.
-/

namespace RelationalQuery

/-! ## Two spellings -/

namespace Filter

mutual

/-- The document that spells a criterion. -/
def criterionToJson : Criterion → Json
  | .literal value => value.toJson
  | .comparison operators => .object (Value.toJsonMembers operators)
  | .logical _ operands => .array (operandsToJson operands)
  | .related quantifier nested => .object [(quantifier.key, .object (entriesToJson nested))]

/-- The members that spell the entries of a filter. -/
def entriesToJson : List (String × Criterion) → List (String × Json)
  | [] => []
  | (key, criterion) :: rest => (key, criterionToJson criterion) :: entriesToJson rest

/-- The documents that spell the filters under a connective. -/
def operandsToJson : List (List (String × Criterion)) → List Json
  | [] => []
  | filter :: rest => .object (entriesToJson filter) :: operandsToJson rest

end

/-- The document that spells a filter: literals stand for themselves, comparisons are the members of
an object, filters under a connective are a list, and a quantifier is the one key of an object. -/
def toJson (filter : Filter) : Json := .object (entriesToJson filter)

end Filter

/-- Whether a criterion stands under a key where a document can put it. -/
inductive Criterion.IsExpressible : String → Criterion → Prop
  | logical {connective : Connective} {operands : List Filter}
    (expressible : ∀ operand ∈ operands, ∀ entry ∈ operand, IsExpressible entry.1 entry.2) :
    IsExpressible connective.key (.logical connective operands)
  | literal {key : String} {value : Value} (field : ¬ IsConnectiveKey key) (plain : value.IsPlain)
    (scalar : value.object? = none) : IsExpressible key (.literal value)
  | comparison {key : String} {operators : Dict Value} (field : ¬ IsConnectiveKey key)
    (apart : ∀ entry ∈ operators, ¬ IsQuantifierKey entry.1)
    (plain : ∀ entry ∈ operators, entry.2.IsPlain) : IsExpressible key (.comparison operators)
  | related {key : String} {quantifier : Quantifier} {nested : Filter}
    (field : ¬ IsConnectiveKey key)
    (expressible : ∀ entry ∈ nested, IsExpressible entry.1 entry.2) :
    IsExpressible key (.related quantifier nested)

/-- Whether a document can spell a filter. -/
def Filter.IsExpressible (filter : Filter) : Prop :=
  ∀ entry ∈ filter, Criterion.IsExpressible entry.1 entry.2

mutual

/-- The documents of filters. -/
inductive Json.IsFilter : Json → Prop
  | null : IsFilter .null
  | object {members : List (String × Json)}
    (criteria : ∀ member ∈ members, IsCriterion member.1 member.2) : IsFilter (.object members)

/-- The documents of criteria under a key. -/
inductive Json.IsCriterion : String → Json → Prop
  | operands {connective : Connective} {items : List Json}
    (filters : ∀ item ∈ items, IsFilter item) : IsCriterion connective.key (.array items)
  | operand {connective : Connective} {members : List (String × Json)}
    (filter : IsFilter (.object members)) : IsCriterion connective.key (.object members)
  | literal {key : String} {json : Json} (field : ¬ IsConnectiveKey key)
    (scalar : json.object? = none) : IsCriterion key json
  | comparison {key : String} {members : List (String × Json)} (field : ¬ IsConnectiveKey key)
    (apart : ∀ member ∈ members, ¬ IsQuantifierKey member.1) : IsCriterion key (.object members)
  | related {key : String} {quantifier : Quantifier} {nested : Json} (field : ¬ IsConnectiveKey key)
    (filter : IsFilter nested) : IsCriterion key (.object [(quantifier.key, nested)])

end

namespace Filter

variable {path key : String}

/-! ## What is read under a key -/

/-- What is neither null nor an object is no filter. -/
theorem read_ne_ok {json : Json} {filter : Filter} (hnull : json ≠ .null)
    (hobject : json.object? = none) : read path json ≠ .ok filter := by
  cases json with
  | null => exact absurd rfl hnull
  | object members => cases hobject
  | _ => simp [read]

/-- What is no object is a literal, unless a connective stands before it. -/
theorem readCriterion_literal {json : Json} (hfield : ¬ IsConnectiveKey key)
    (hscalar : json.object? = none) :
    readCriterion path key json = .ok (.literal (.ofJson json)) := by
  have hnone := Connective.ofKey?_eq_none_iff.mpr hfield
  cases json with
  | object members => cases hscalar
  | _ => simp [readCriterion, hnone, pure, Except.pure]

theorem readCriterion_operands (connective : Connective) (items : List Json) :
    readCriterion path connective.key (.array items) =
      .logical connective <$> readList path 0 items := by
  rw [readCriterion, Connective.ofKey?_key]
  rfl

theorem readCriterion_operand (connective : Connective) (members : List (String × Json)) :
    readCriterion path connective.key (.object members) =
      (fun filter => .logical connective [filter]) <$> readEntries path members := by
  rw [readCriterion, Connective.ofKey?_key]
  rfl

theorem readCriterion_object {members : List (String × Json)} (hfield : ¬ IsConnectiveKey key) :
    readCriterion path key (.object members) = readMembers path members := by
  rw [readCriterion, Connective.ofKey?_eq_none_iff.mpr hfield]

theorem readMembers_related (quantifier : Quantifier) (nested : Json) :
    readMembers path [(quantifier.key, nested)] =
      .related quantifier <$> read (path ++ "." ++ quantifier.key) nested := by
  rw [readMembers, Quantifier.ofKey?_key]
  rfl

/-- An object without the key of a quantifier holds comparisons. -/
theorem readMembers_comparison {members : List (String × Json)}
    (hapart : ∀ member ∈ members, ¬ IsQuantifierKey member.1) :
    readMembers path members = .ok (.comparison (Value.ofJsonMembers members)) := by
  have hnone : ∀ member ∈ members, Quantifier.ofKey? member.1 = none :=
    fun member hmember => Quantifier.ofKey?_eq_none_iff.mpr (hapart member hmember)
  cases members with
  | nil => rfl
  | cons first rest =>
    obtain ⟨name, json⟩ := first
    cases rest with
    | nil =>
      rw [readMembers, hnone (name, json) List.mem_cons_self]
      rfl
    | cons second rest =>
      have hany : ((name, json) :: second :: rest).any
          (fun member => (Quantifier.ofKey? member.1).isSome) = false := by
        simpa [List.any_eq_false] using hnone
      simp [readMembers, hany, pure, Except.pure]

/-- An object with the key of a quantifier and another key is neither. -/
theorem readMembers_mixed {first second : String × Json} {rest : List (String × Json)}
    (hmixed : ∃ member ∈ first :: second :: rest, IsQuantifierKey member.1) :
    readMembers path (first :: second :: rest) = .error (.invalidFilter path .mixedQuantifier) := by
  have hany : (first :: second :: rest).any
      (fun member => (Quantifier.ofKey? member.1).isSome) = true := by
    simpa only [List.any_eq_true, Quantifier.isSome_ofKey?_iff] using hmixed
  simp [readMembers, hany]

/-! ## Reading what spells a filter -/

/-- The entries of a filter are read back, if each criterion is. -/
theorem readEntries_entriesToJson {filter : Filter}
    (h : ∀ entry ∈ filter, ∀ path,
      readCriterion path entry.1 (criterionToJson entry.2) = .ok entry.2) :
    readEntries path (entriesToJson filter) = .ok filter := by
  induction filter with
  | nil => rw [entriesToJson, readEntries]
  | cons entry rest ih =>
    obtain ⟨hfirst, hrest⟩ := List.forall_mem_cons.mp h
    rw [entriesToJson, readEntries, hfirst, ih hrest]
    rfl

/-- The filters under a connective are read back, if each is. -/
theorem readList_operandsToJson {operands : List Filter} {position : Nat}
    (h : ∀ operand ∈ operands, ∀ path, readEntries path (entriesToJson operand) = .ok operand) :
    readList path position (operandsToJson operands) = .ok operands := by
  induction operands generalizing position with
  | nil => rw [operandsToJson, readList]
  | cons operand rest ih =>
    obtain ⟨hfirst, hrest⟩ := List.forall_mem_cons.mp h
    rw [operandsToJson, readList, read, hfirst, ih hrest]
    rfl

/-- A criterion is read back from the document that spells it. -/
theorem readCriterion_criterionToJson {criterion : Criterion} (h : criterion.IsExpressible key)
    (path : String) : readCriterion path key (criterionToJson criterion) = .ok criterion := by
  induction h generalizing path with
  | logical _ ih =>
    have hoperands : ∀ operand ∈ _, ∀ path, readEntries path (entriesToJson operand) = .ok operand :=
      fun operand hoperand path => readEntries_entriesToJson (ih operand hoperand)
    rw [criterionToJson, readCriterion_operands, readList_operandsToJson hoperands]
    rfl
  | literal field plain scalar =>
    rw [criterionToJson, readCriterion_literal field (Value.object?_toJson plain scalar),
      Value.ofJson_toJson plain]
  | @comparison key operators field apart plain =>
    have hapart : ∀ member ∈ Value.toJsonMembers operators, ¬ IsQuantifierKey member.1 := by
      rw [Value.toJsonMembers_eq_map]
      exact List.forall_mem_map.mpr apart
    have hread := fun entry hentry => Value.ofJson_toJson (plain entry hentry)
    rw [criterionToJson, readCriterion_object field, readMembers_comparison hapart,
      Value.ofJsonMembers_toJsonMembers hread]
  | related field _ ih =>
    rw [criterionToJson, readCriterion_object field, readMembers_related, read,
      readEntries_entriesToJson ih]
    rfl

end Filter

/-! ## The grammar -/

namespace Json

variable {key : String}

theorem isFilter_object_iff {members : List (String × Json)} :
    IsFilter (.object members) ↔ ∀ member ∈ members, IsCriterion member.1 member.2 := by
  refine ⟨fun h => ?_, .object⟩
  cases h with
  | object criteria => exact criteria

theorem isCriterion_operands_iff {connective : Connective} {items : List Json} :
    IsCriterion connective.key (.array items) ↔ ∀ item ∈ items, item.IsFilter := by
  refine ⟨fun h => ?_, .operands⟩
  generalize hkey : connective.key = key at h
  cases h with
  | operands filters => exact filters
  | literal field => exact absurd ⟨connective, hkey⟩ field

theorem isCriterion_operand_iff {connective : Connective} {members : List (String × Json)} :
    IsCriterion connective.key (.object members) ↔ IsFilter (.object members) := by
  refine ⟨fun h => ?_, .operand⟩
  generalize hkey : connective.key = key at h
  cases h with
  | operand filter => exact filter
  | literal field => exact absurd ⟨connective, hkey⟩ field
  | comparison field => exact absurd ⟨connective, hkey⟩ field
  | related field => exact absurd ⟨connective, hkey⟩ field

/-- What is no list and no object is a criterion where no connective stands before it. -/
theorem isCriterion_iff_of_scalar {json : Json} (harray : json.array? = none)
    (hobject : json.object? = none) : IsCriterion key json ↔ ¬ IsConnectiveKey key := by
  refine ⟨fun h => ?_, fun hfield => .literal hfield hobject⟩
  cases h with
  | operands => cases harray
  | operand => cases hobject
  | literal field => exact field
  | comparison => cases hobject
  | related => cases hobject

/-- An object under a field holds comparisons, or one quantifier over a filter. -/
theorem isCriterion_object_iff {members : List (String × Json)} (hfield : ¬ IsConnectiveKey key) :
    IsCriterion key (.object members) ↔ (∀ member ∈ members, ¬ IsQuantifierKey member.1) ∨
      ∃ quantifier nested, members = [(Quantifier.key quantifier, nested)] ∧ nested.IsFilter := by
  constructor
  · intro h
    cases h with
    | operand => exact absurd ⟨_, rfl⟩ hfield
    | literal _ scalar => cases scalar
    | comparison _ apart => exact Or.inl apart
    | related _ filter => exact Or.inr ⟨_, _, rfl, filter⟩
  · rintro (hapart | ⟨quantifier, nested, rfl, hnested⟩)
    · exact .comparison hfield hapart
    · exact .related hfield hnested

end Json

namespace Filter

variable {path key : String}

/-- What is no list and no object is read where no connective stands before it. -/
theorem exists_readCriterion_iff_of_scalar {json : Json} (harray : json.array? = none)
    (hobject : json.object? = none) :
    (∃ criterion, readCriterion path key json = .ok criterion) ↔ json.IsCriterion key := by
  rw [Json.isCriterion_iff_of_scalar harray hobject]
  by_cases hkey : IsConnectiveKey key
  · refine iff_of_false ?_ (fun hfield => hfield hkey)
    obtain ⟨connective, rfl⟩ := hkey
    cases json with
    | array items => cases harray
    | object members => cases hobject
    | _ => simp [readCriterion, Connective.ofKey?_key]
  · exact iff_of_true ⟨_, readCriterion_literal hkey hobject⟩ hkey

mutual

/-- The documents that are read as a filter. -/
theorem exists_read_iff (path : String) : (json : Json) →
    ((∃ filter, read path json = .ok filter) ↔ json.IsFilter)
  | .null => iff_of_true ⟨[], by rw [read]⟩ .null
  | .object members => by rw [read, exists_readEntries_iff path members, Json.isFilter_object_iff]
  | .bool _ => iff_of_false (by simp [read]) fun h => by cases h
  | .int _ => iff_of_false (by simp [read]) fun h => by cases h
  | .float _ => iff_of_false (by simp [read]) fun h => by cases h
  | .string _ => iff_of_false (by simp [read]) fun h => by cases h
  | .array _ => iff_of_false (by simp [read]) fun h => by cases h

/-- The members that are read as the entries of a filter. -/
theorem exists_readEntries_iff (path : String) : (members : List (String × Json)) →
    ((∃ filter, readEntries path members = .ok filter) ↔
      ∀ member ∈ members, Json.IsCriterion member.1 member.2)
  | [] => iff_of_true ⟨[], by rw [readEntries]⟩ (by simp)
  | (key, json) :: rest => by
    rw [readEntries, exists_both_eq_ok_iff, List.forall_mem_cons,
      exists_readCriterion_iff (path ++ "." ++ key) key json, exists_readEntries_iff path rest]

/-- The documents that are read as a criterion under a key. -/
theorem exists_readCriterion_iff (path key : String) : (json : Json) →
    ((∃ criterion, readCriterion path key json = .ok criterion) ↔ json.IsCriterion key)
  | .array items => by
    by_cases hkey : IsConnectiveKey key
    · obtain ⟨connective, rfl⟩ := hkey
      rw [readCriterion_operands, exists_map_eq_ok_iff, exists_readList_iff path 0 items,
        Json.isCriterion_operands_iff]
    · exact iff_of_true ⟨_, readCriterion_literal hkey rfl⟩ (.literal hkey rfl)
  | .object members => by
    by_cases hkey : IsConnectiveKey key
    · obtain ⟨connective, rfl⟩ := hkey
      rw [readCriterion_operand, exists_map_eq_ok_iff, exists_readEntries_iff path members,
        Json.isCriterion_operand_iff, Json.isFilter_object_iff]
    · rw [readCriterion_object hkey, exists_readMembers_iff path members,
        Json.isCriterion_object_iff hkey]
  | .null => exists_readCriterion_iff_of_scalar rfl rfl
  | .bool _ => exists_readCriterion_iff_of_scalar rfl rfl
  | .int _ => exists_readCriterion_iff_of_scalar rfl rfl
  | .float _ => exists_readCriterion_iff_of_scalar rfl rfl
  | .string _ => exists_readCriterion_iff_of_scalar rfl rfl

/-- The objects that are read as a criterion under the key of a field. -/
theorem exists_readMembers_iff (path : String) : (members : List (String × Json)) →
    ((∃ criterion, readMembers path members = .ok criterion) ↔
      (∀ member ∈ members, ¬ IsQuantifierKey member.1) ∨
        ∃ quantifier nested, members = [(Quantifier.key quantifier, nested)] ∧ nested.IsFilter)
  | [] => iff_of_true ⟨_, readMembers_comparison (by simp)⟩ (Or.inl (by simp))
  | [(name, nested)] => by
    by_cases hname : IsQuantifierKey name
    · obtain ⟨quantifier, rfl⟩ := hname
      rw [readMembers_related, exists_map_eq_ok_iff, exists_read_iff _ nested]
      refine ⟨fun hnested => Or.inr ⟨quantifier, nested, rfl, hnested⟩, ?_⟩
      rintro (hapart | ⟨quantifier', nested', hmembers, hnested⟩)
      · exact absurd ⟨quantifier, rfl⟩ (hapart _ List.mem_cons_self)
      · obtain ⟨-, rfl⟩ := Prod.mk.inj (List.cons.inj hmembers).1
        exact hnested
    · have hapart : ∀ member ∈ [(name, nested)], ¬ IsQuantifierKey member.1 := by simpa using hname
      exact iff_of_true ⟨_, readMembers_comparison hapart⟩ (Or.inl hapart)
  | first :: second :: rest => by
    by_cases hmixed : ∃ member ∈ first :: second :: rest, IsQuantifierKey member.1
    · refine iff_of_false ?_ ?_
      · simp [readMembers_mixed hmixed]
      · rintro (hapart | ⟨quantifier, nested, hmembers, -⟩)
        · obtain ⟨member, hmember, hquantifier⟩ := hmixed
          exact hapart member hmember hquantifier
        · cases hmembers
    · have hapart : ∀ member ∈ first :: second :: rest, ¬ IsQuantifierKey member.1 :=
        fun member hmember hquantifier => hmixed ⟨member, hmember, hquantifier⟩
      exact iff_of_true ⟨_, readMembers_comparison hapart⟩ (Or.inl hapart)

/-- The lists that are read as the filters under a connective. -/
theorem exists_readList_iff (path : String) (position : Nat) : (items : List Json) →
    ((∃ filters, readList path position items = .ok filters) ↔ ∀ item ∈ items, item.IsFilter)
  | [] => iff_of_true ⟨[], by rw [readList]⟩ (by simp)
  | item :: rest => by
    rw [readList, exists_both_eq_ok_iff, List.forall_mem_cons, exists_read_iff _ item,
      exists_readList_iff path (position + 1) rest]

end

/-! ## What is read can be spelled -/

/-- The entries of a filter can be spelled, if each criterion that is read can. -/
theorem isExpressible_of_readEntries {members : List (String × Json)} {filter : Filter}
    (h : ∀ member ∈ members, ∀ path criterion,
      readCriterion path member.1 member.2 = .ok criterion → criterion.IsExpressible member.1)
    (hread : readEntries path members = .ok filter) : filter.IsExpressible := by
  induction members generalizing filter with
  | nil =>
    rw [readEntries] at hread
    obtain rfl : [] = filter := Except.ok.inj hread
    intro entry hentry
    exact absurd hentry List.not_mem_nil
  | cons member rest ih =>
    obtain ⟨key, json⟩ := member
    obtain ⟨hfirst, hrest⟩ := List.forall_mem_cons.mp h
    rw [readEntries, bind_eq_ok_iff] at hread
    obtain ⟨criterion, hcriterion, hread⟩ := hread
    rw [bind_eq_ok_iff] at hread
    obtain ⟨others, hothers, hread⟩ := hread
    obtain rfl : (key, criterion) :: others = filter := Except.ok.inj hread
    exact List.forall_mem_cons.mpr ⟨hfirst _ criterion hcriterion, ih hrest hothers⟩

/-- The filters under a connective can be spelled, if each filter that is read can. -/
theorem isExpressible_of_readList {items : List Json} {filters : List Filter} {position : Nat}
    (h : ∀ item ∈ items, ∀ path filter, read path item = .ok filter → filter.IsExpressible)
    (hread : readList path position items = .ok filters) :
    ∀ filter ∈ filters, filter.IsExpressible := by
  induction items generalizing filters position with
  | nil =>
    rw [readList] at hread
    obtain rfl : [] = filters := Except.ok.inj hread
    intro filter hfilter
    exact absurd hfilter List.not_mem_nil
  | cons item rest ih =>
    obtain ⟨hfirst, hrest⟩ := List.forall_mem_cons.mp h
    rw [readList, bind_eq_ok_iff] at hread
    obtain ⟨filter, hfilter, hread⟩ := hread
    rw [bind_eq_ok_iff] at hread
    obtain ⟨others, hothers, hread⟩ := hread
    obtain rfl : filter :: others = filters := Except.ok.inj hread
    exact List.forall_mem_cons.mpr ⟨hfirst _ filter hfilter, ih hrest hothers⟩

/-- A literal that is read from a plain document can be spelled. -/
theorem isExpressible_of_readCriterion_literal {json : Json} {criterion : Criterion}
    (hplain : json.HasPlainNumbers) (hobject : json.object? = none) (hfield : ¬ IsConnectiveKey key)
    (hread : readCriterion path key json = .ok criterion) : criterion.IsExpressible key := by
  rw [readCriterion_literal hfield hobject] at hread
  obtain rfl := Except.ok.inj hread
  exact .literal hfield (Value.isPlain_ofJson hplain) (Value.object?_ofJson hobject)

/-- A criterion that is read from a plain document without parts can be spelled. -/
theorem isExpressible_of_readCriterion_scalar {json : Json} {criterion : Criterion}
    (hplain : json.HasPlainNumbers) (harray : json.array? = none) (hobject : json.object? = none)
    (hread : readCriterion path key json = .ok criterion) : criterion.IsExpressible key := by
  have hcriterion := (exists_readCriterion_iff_of_scalar harray hobject).mp ⟨criterion, hread⟩
  exact isExpressible_of_readCriterion_literal hplain hobject
    ((Json.isCriterion_iff_of_scalar harray hobject).mp hcriterion) hread

/-- Comparisons that are read from plain documents can be spelled. -/
theorem isExpressible_comparison {members : List (String × Json)} (hfield : ¬ IsConnectiveKey key)
    (hplain : ∀ member ∈ members, member.2.HasPlainNumbers)
    (hapart : ∀ member ∈ members, ¬ IsQuantifierKey member.1) :
    (Criterion.comparison (Value.ofJsonMembers members)).IsExpressible key := by
  rw [Value.ofJsonMembers_eq_map]
  refine .comparison hfield (List.forall_mem_map.mpr hapart) (List.forall_mem_map.mpr ?_)
  exact fun member hmember => Value.isPlain_ofJson (hplain member hmember)

/-- Whatever is read from a document with plain numbers, as a filter or as a criterion, can be
spelled. -/
theorem isExpressible_of_read {json : Json} (h : json.HasPlainNumbers) :
    (∀ path filter, read path json = .ok filter → filter.IsExpressible) ∧
      ∀ path key criterion, readCriterion path key json = .ok criterion →
        criterion.IsExpressible key := by
  -- what has no parts is no filter, and a literal
  have hscalar {json : Json} (hplain : json.HasPlainNumbers) (hnull : json ≠ .null)
      (harray : json.array? = none) (hobject : json.object? = none) :
      (∀ path filter, read path json = .ok filter → filter.IsExpressible) ∧
        ∀ path key criterion, readCriterion path key json = .ok criterion →
          criterion.IsExpressible key := by
    refine ⟨fun path filter hread => absurd hread (read_ne_ok hnull hobject), ?_⟩
    exact fun path key criterion => isExpressible_of_readCriterion_scalar hplain harray hobject
  induction h with
  | null =>
    refine ⟨fun path filter hread => ?_, fun path key criterion =>
      isExpressible_of_readCriterion_scalar .null rfl rfl⟩
    rw [read] at hread
    obtain rfl : [] = filter := Except.ok.inj hread
    intro entry hentry
    exact absurd hentry List.not_mem_nil
  | bool => exact hscalar .bool Json.noConfusion rfl rfl
  | int low high => exact hscalar (.int low high) Json.noConfusion rfl rfl
  | float finite => exact hscalar (.float finite) Json.noConfusion rfl rfl
  | string => exact hscalar .string Json.noConfusion rfl rfl
  | @array items plain ih =>
    refine ⟨fun path filter hread => absurd hread (read_ne_ok Json.noConfusion rfl),
      fun path key criterion hread => ?_⟩
    by_cases hkey : IsConnectiveKey key
    · obtain ⟨connective, rfl⟩ := hkey
      rw [readCriterion_operands, map_eq_ok_iff] at hread
      obtain ⟨filters, hfilters, rfl⟩ := hread
      exact .logical (isExpressible_of_readList (fun item hitem => (ih item hitem).1) hfilters)
    · exact isExpressible_of_readCriterion_literal (.array plain) rfl hkey hread
  | @object members plain ih =>
    have hcriteria : ∀ member ∈ members, ∀ path criterion,
        readCriterion path member.1 member.2 = .ok criterion → criterion.IsExpressible member.1 :=
      fun member hmember path => (ih member hmember).2 path member.1
    refine ⟨fun path filter hread => ?_, fun path key criterion hread => ?_⟩
    · rw [read] at hread
      exact isExpressible_of_readEntries hcriteria hread
    · by_cases hkey : IsConnectiveKey key
      · obtain ⟨connective, rfl⟩ := hkey
        rw [readCriterion_operand, map_eq_ok_iff] at hread
        obtain ⟨filter, hfilter, rfl⟩ := hread
        have hexpressible := isExpressible_of_readEntries hcriteria hfilter
        exact .logical (List.forall_mem_singleton.mpr hexpressible)
      · rw [readCriterion_object hkey] at hread
        rcases (exists_readMembers_iff path members).mp ⟨criterion, hread⟩ with
          hapart | ⟨quantifier, nested, rfl, -⟩
        · rw [readMembers_comparison hapart] at hread
          obtain rfl := Except.ok.inj hread
          exact isExpressible_comparison hkey plain hapart
        · rw [readMembers_related, map_eq_ok_iff] at hread
          obtain ⟨filter, hfilter, rfl⟩ := hread
          exact .related hkey ((ih _ List.mem_cons_self).1 _ _ hfilter)

/-! ## The law -/

/-- A filter that a document can spell is read back from the document that spells it. The documents
that are read are those of the shape of a filter, and what is read from one with plain numbers can
be spelled. -/
theorem spells (filter : Filter) (json : Json) :
    (filter.IsExpressible → ofJson filter.toJson = .ok filter) ∧
      ((∃ found, ofJson json = .ok found) ↔ json.IsFilter) ∧
        (json.HasPlainNumbers → ∀ found, ofJson json = .ok found → found.IsExpressible) := by
  refine ⟨fun h => ?_, exists_read_iff "where" json, fun h => (isExpressible_of_read h).1 "where"⟩
  rw [ofJson, toJson, read]
  exact readEntries_entriesToJson fun entry hentry => readCriterion_criterionToJson (h entry hentry)

/-- Lamps that are cheap, reviewed, and in stock or still made. -/
def lamps : Filter :=
  [("name", .comparison [("containsInsensitive", .text "lamp")]),
    ("price", .comparison [("gte", .int 10), ("lt", .float 100.5)]),
    ("reviews", .related .some [("rating", .comparison [("gte", .int 4)])]),
    ("OR", .logical .any [[("stock", .comparison [("gt", .int 0)])],
      [("NOT", .logical .not [[("discontinued", .literal (.bool true))]])]])]

/-- The filter as it may be written, with a single filter under `NOT`. -/
def lampsDocument : Json :=
  .object [("name", .object [("containsInsensitive", .string "lamp")]),
    ("price", .object [("gte", .int 10), ("lt", .float 100.5)]),
    ("reviews", .object [("some", .object [("rating", .object [("gte", .int 4)])])]),
    ("OR", .array [.object [("stock", .object [("gt", .int 0)])],
      .object [("NOT", .object [("discontinued", .bool true)])]])]

/-- The filter on lamps is read from either spelling. -/
theorem spells_lamps :
    lampsDocument.HasPlainNumbers ∧ ofJson lampsDocument = .ok lamps ∧ lamps.IsExpressible ∧
      ofJson lamps.toJson = .ok lamps := by
  have hone {key : String} {json : Json} (h : json.HasPlainNumbers) :
      Json.HasPlainNumbers (.object [(key, json)]) := .object (List.forall_mem_singleton.mpr h)
  have hplain : lampsDocument.HasPlainNumbers := by
    refine .object ?_
    simp only [List.forall_mem_cons]
    refine ⟨hone .string, .object ?_, hone (hone (hone (.int (by decide) (by decide)))), .array ?_,
      List.forall_mem_nil _⟩
    · simp only [List.forall_mem_cons]
      exact ⟨.int (by decide) (by decide), .float (by decide), List.forall_mem_nil _⟩
    · simp only [List.forall_mem_cons]
      exact ⟨hone (hone (.int (by decide) (by decide))), hone (hone .bool), List.forall_mem_nil _⟩
  have hread : ofJson lampsDocument = .ok lamps := rfl
  have hexpressible := (spells lamps lampsDocument).2.2 hplain lamps hread
  exact ⟨hplain, hread, hexpressible, (spells lamps lampsDocument).1 hexpressible⟩

end Filter

end RelationalQuery
