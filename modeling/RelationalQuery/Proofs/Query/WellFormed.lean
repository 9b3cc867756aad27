import Mathlib.Tactic.ByContra
import Mathlib.Tactic.Push
import RelationalQuery.Compile.Error
import RelationalQuery.Proofs.Query.Keys
import RelationalQuery.Query.Filter
import RelationalQuery.Schema.Basic

/-!
# Well-formed filters

`Filter.IsWellFormed` says by a schema which filters make sense for a model: connectives hold
filters, relations hold quantifiers, everything else a value or comparisons with operands that fit.
`Filter.Breaks` says where a filter first departs from that, and which error tells of it. Both are
about the filter and the schema alone, and know nothing of statements.

## Shape of a departure

Filters are read entry by entry, everything inside of an entry before the next one. So there is a
first entry that is out of place: `Filter.Reaches` and `Comparison.Reaches` say of an entry that
nothing in front of it is. `Filter.breaks_of_not_isWellFormed` finds it, by recursion on the filter.
-/

namespace RelationalQuery

/-- Unless all entries of a list have a property, there is a first one that lacks it. -/
theorem exists_first_of_not_forall {α : Type} {p : α → Prop} {l : List α}
    (h : ¬ ∀ a ∈ l, p a) :
    ∃ before a after, l = before ++ a :: after ∧ (∀ b ∈ before, p b) ∧ ¬ p a := by
  classical
  have hsome : (l.find? fun a => ¬ p a).isSome := by simpa using h
  obtain ⟨a, ha⟩ := Option.isSome_iff_exists.mp hsome
  obtain ⟨hlacks, before, after, hsplit, hbefore⟩ := List.find?_eq_some_iff_append.mp ha
  exact ⟨before, a, after, hsplit, by simpa using hbefore, by simpa using hlacks⟩

/-! ## Operands -/

/-- Whether a value has a text to search for. -/
def Value.IsSearchable : Value → Prop
  | .null | .list _ | .object _ => False
  | _ => True

/-- Whether a key is that of a comparison which an operand fits. A search takes an operand with a
text, and a negation may take comparisons in place of a value, of which there has to be one. -/
inductive Comparison.Fits : String → Value → Prop
  | search {place : TextMatch} {insensitive : Bool} {operand : Value}
    (searchable : operand.IsSearchable) : Fits (Comparison.search place insensitive).key operand
  | negated {nested : Dict Value} (some_entry : nested ≠ [])
    (fit : ∀ entry ∈ nested, Fits entry.1 entry.2) : Fits Comparison.not.key (.object nested)
  | value {op : Comparison} {operand : Value}
    (no_search : ∀ place insensitive, op ≠ .search place insensitive)
    (single : op = .not → operand.object? = none) : Fits op.key operand

/-- An entry of a dictionary of comparisons that is looked at: all keys are known, and the operands
in front of it fit. -/
def Comparison.Reaches (operators : Dict Value) (key : String) (operand : Value) : Prop :=
  (∀ entry ∈ operators, IsComparisonKey entry.1) ∧
    ∃ before after, operators = before ++ (key, operand) :: after ∧
      ∀ entry ∈ before, Comparison.Fits entry.1 entry.2

/-- The first of some comparisons is looked at if all of their keys are known. -/
theorem Comparison.Reaches.head {key : String} {operand : Value} {after : Dict Value}
    (h : ∀ entry ∈ (key, operand) :: after, IsComparisonKey entry.1) :
    Comparison.Reaches ((key, operand) :: after) key operand :=
  ⟨h, [], after, rfl, List.forall_mem_nil _⟩

/-- Where comparisons of a field first depart from what fits, and the error that says so. Keys are
looked at before operands, and all that are unknown are told together. -/
inductive Comparison.Breaks (field : String) : Dict Value → CompileError → Prop
  | unknown {operators : Dict Value}
    (some_unknown : ∃ entry ∈ operators, ¬ IsComparisonKey entry.1) :
    Breaks field operators
      (.unknownOperators field (operators.keys.filter fun key => ¬ IsComparisonKey key))
  | search {operators : Dict Value} {place : TextMatch} {insensitive : Bool} {operand : Value}
    (reached : Reaches operators (Comparison.search place insensitive).key operand)
    (no_text : ¬ operand.IsSearchable) :
    Breaks field operators (.searchWithoutText (.search place insensitive) field operand.kind)
  | emptyNot {operators : Dict Value}
    (reached : Reaches operators Comparison.not.key (.object [])) :
    Breaks field operators (.emptyNot field)
  | negated {operators nested : Dict Value} {error : CompileError}
    (reached : Reaches operators Comparison.not.key (.object nested)) (some_entry : nested ≠ [])
    (below : Breaks field nested error) : Breaks field operators error

theorem Comparison.Fits.isComparisonKey {key : String} {operand : Value}
    (h : Comparison.Fits key operand) : IsComparisonKey key := by
  cases h with
  | search searchable => exact ⟨_, rfl⟩
  | negated some_entry fit => exact ⟨_, rfl⟩
  | value no_search single => exact ⟨_, rfl⟩

/-- Comparisons that do not all fit depart from it somewhere. -/
theorem Comparison.breaks_of_not_fits (field : String) (operators : Dict Value)
    (h : ¬ ∀ entry ∈ operators, Comparison.Fits entry.1 entry.2) :
    ∃ error, Comparison.Breaks field operators error := by
  by_cases hunknown : ∃ entry ∈ operators, ¬ IsComparisonKey entry.1
  · exact ⟨_, .unknown hunknown⟩
  have hknown : ∀ entry ∈ operators, IsComparisonKey entry.1 := by
    push Not at hunknown
    exact hunknown
  obtain ⟨before, ⟨key, operand⟩, after, hsplit, hbefore, hnot⟩ := exists_first_of_not_forall h
  have hmem : (key, operand) ∈ operators := by simp [hsplit]
  have hreached : Comparison.Reaches operators key operand :=
    ⟨hknown, before, after, hsplit, hbefore⟩
  obtain ⟨op, rfl⟩ := hknown _ hmem
  by_cases hsearch : ∃ place insensitive, op = .search place insensitive
  · obtain ⟨place, insensitive, rfl⟩ := hsearch
    exact ⟨_, .search hreached fun hsearchable => hnot (.search hsearchable)⟩
  push Not at hsearch
  -- what is neither searched for nor negated always fits
  obtain rfl : op = .not := by
    by_contra hop
    exact hnot (.value hsearch fun hnegated => absurd hnegated hop)
  cases operand with
  | object nested =>
    by_cases hempty : nested = []
    · subst hempty
      exact ⟨_, .emptyNot hreached⟩
    · have hbelow : ¬ ∀ entry ∈ nested, Comparison.Fits entry.1 entry.2 :=
        fun hfit => hnot (.negated hempty hfit)
      have hsmaller : sizeOf nested < sizeOf operators := by
        have hlt := List.sizeOf_lt_of_mem hmem
        simp only [Prod.mk.sizeOf_spec, Value.object.sizeOf_spec] at hlt
        omega
      obtain ⟨error, hbreaks⟩ := Comparison.breaks_of_not_fits field nested hbelow
      exact ⟨error, .negated hreached hempty hbreaks⟩
  | _ => exact absurd (.value hsearch fun _ => rfl) hnot
termination_by sizeOf operators

/-! ## Criteria -/

/-- Whether a key stands for a value of the rows of a model: it is neither that of a connective nor
the name of a relation. -/
def Schema.IsValueKey (s : Schema) (model key : String) : Prop :=
  ¬ IsConnectiveKey key ∧ s.relation? model key = none

/-- Whether a key stands for the rows that a relation of a model leads to. -/
def Schema.IsRelationKey (s : Schema) (model key : String) (relation : Relation) : Prop :=
  ¬ IsConnectiveKey key ∧ s.relation? model key = some relation

/-- Whether a relation leads anywhere: if it is many to many, then over a join table. -/
def Relation.IsJoined (relation : Relation) : Prop :=
  relation.isManyToMany → relation.joinTable ≠ none

/-- Whether a criterion makes sense under a key, for rows of a model. -/
inductive Criterion.IsWellFormed (s : Schema) : String → String → Criterion → Prop
  | literal {model key : String} {value : Value} (field : s.IsValueKey model key) :
    IsWellFormed s model key (.literal value)
  | comparison {model key : String} {operators : Dict Value} (field : s.IsValueKey model key)
    (fit : ∀ entry ∈ operators, Comparison.Fits entry.1 entry.2) :
    IsWellFormed s model key (.comparison operators)
  | logical {model key : String} {connective : Connective} {operands : List Filter}
    (combines : IsConnectiveKey key)
    (below : ∀ operand ∈ operands, ∀ entry ∈ operand, IsWellFormed s model entry.1 entry.2) :
    IsWellFormed s model key (.logical connective operands)
  | related {model key : String} {quantifier : Quantifier} {nested : Filter} {relation : Relation}
    (leads : s.IsRelationKey model key relation) (joined : relation.IsJoined)
    (below : ∀ entry ∈ nested, IsWellFormed s relation.target entry.1 entry.2) :
    IsWellFormed s model key (.related quantifier nested)

/-- Whether a filter makes sense for rows of a model. -/
def Filter.IsWellFormed (s : Schema) (model : String) (filter : Filter) : Prop :=
  ∀ entry ∈ filter, Criterion.IsWellFormed s model entry.1 entry.2

/-- An entry of a filter that is looked at: the entries in front of it make sense. -/
def Filter.Reaches (s : Schema) (model : String) (filter : Filter) (key : String)
    (criterion : Criterion) : Prop :=
  ∃ before after : Filter, filter = before ++ (key, criterion) :: after ∧
    before.IsWellFormed s model

/-- The first entry of a filter is looked at. -/
theorem Filter.Reaches.head {s : Schema} {model key : String} {criterion : Criterion}
    {after : Filter} : Filter.Reaches s model ((key, criterion) :: after) key criterion :=
  ⟨[], after, rfl, List.forall_mem_nil _⟩

/-- Where a filter on rows of a model first departs from what makes sense, and the error that says
so. -/
inductive Filter.Breaks (s : Schema) : String → Filter → CompileError → Prop
  | connectiveWithoutFilters {model : String} {filter : Filter} {connective : Connective}
    {criterion : Criterion} (reached : Reaches s model filter connective.key criterion)
    (no_filters : ¬ criterion.isLogical) :
    Breaks s model filter (.connectiveWithoutFilters connective)
  | logicalUnderField {model key : String} {filter : Filter} {criterion : Criterion}
    (reached : Reaches s model filter key criterion) (field : ¬ IsConnectiveKey key)
    (filters : criterion.isLogical) : Breaks s model filter (.logicalUnderField key model)
  | relationWithoutQuantifier {model key : String} {filter : Filter} {criterion : Criterion}
    {relation : Relation} (reached : Reaches s model filter key criterion)
    (leads : s.IsRelationKey model key relation) (no_filters : ¬ criterion.isLogical)
    (no_quantifier : ¬ criterion.isRelated) :
    Breaks s model filter (.relationWithoutQuantifier key model)
  | quantifierWithoutRelation {model key : String} {filter : Filter} {criterion : Criterion}
    (reached : Reaches s model filter key criterion) (field : s.IsValueKey model key)
    (quantifier : criterion.isRelated) :
    Breaks s model filter (.quantifierWithoutRelation key model)
  | noJoinTable {model key : String} {filter nested : Filter} {quantifier : Quantifier}
    {relation : Relation} (reached : Reaches s model filter key (.related quantifier nested))
    (leads : s.IsRelationKey model key relation) (unjoined : ¬ relation.IsJoined) :
    Breaks s model filter (.noJoinTable key (some model))
  | comparison {model key : String} {filter : Filter} {operators : Dict Value}
    {error : CompileError} (reached : Reaches s model filter key (.comparison operators))
    (field : s.IsValueKey model key) (below : Comparison.Breaks key operators error) :
    Breaks s model filter error
  | logical {model key : String} {filter operand : Filter} {connective : Connective}
    {before after : List Filter} {error : CompileError}
    (reached : Reaches s model filter key (.logical connective (before ++ operand :: after)))
    (combines : IsConnectiveKey key) (sound : ∀ other ∈ before, other.IsWellFormed s model)
    (below : Breaks s model operand error) : Breaks s model filter error
  | related {model key : String} {filter nested : Filter} {quantifier : Quantifier}
    {relation : Relation} {error : CompileError}
    (reached : Reaches s model filter key (.related quantifier nested))
    (leads : s.IsRelationKey model key relation) (joined : relation.IsJoined)
    (below : Breaks s relation.target nested error) : Breaks s model filter error

variable {s : Schema}

/-- A filter that does not make sense departs from it somewhere. -/
theorem Filter.breaks_of_not_isWellFormed (model : String) (filter : Filter)
    (h : ¬ filter.IsWellFormed s model) : ∃ error, filter.Breaks s model error := by
  obtain ⟨before, ⟨key, criterion⟩, after, hsplit, hbefore, hnot⟩ := exists_first_of_not_forall h
  have hreached : filter.Reaches s model key criterion := ⟨before, after, hsplit, hbefore⟩
  have hsize : sizeOf criterion < sizeOf filter := by
    have hmem : (key, criterion) ∈ filter := by simp [hsplit]
    have hlt := List.sizeOf_lt_of_mem hmem
    simp only [Prod.mk.sizeOf_spec] at hlt
    omega
  by_cases hconnective : IsConnectiveKey key
  · -- only filters may stand under a connective
    cases criterion with
    | logical connective operands =>
      have hoperands : ¬ ∀ operand ∈ operands, Filter.IsWellFormed s model operand :=
        fun hsound => hnot (.logical hconnective hsound)
      obtain ⟨clean, operand, rest, rfl, hclean, hoperand⟩ := exists_first_of_not_forall hoperands
      have hsmaller : sizeOf operand < sizeOf filter := by
        have hmem : operand ∈ clean ++ operand :: rest := by simp
        have hlt := List.sizeOf_lt_of_mem hmem
        simp only [Criterion.logical.sizeOf_spec] at hsize
        omega
      obtain ⟨error, hbreaks⟩ := Filter.breaks_of_not_isWellFormed model operand hoperand
      exact ⟨error, .logical hreached hconnective hclean hbreaks⟩
    | _ =>
      obtain ⟨connective, rfl⟩ := hconnective
      exact ⟨_, .connectiveWithoutFilters hreached (by simp [Criterion.isLogical])⟩
  · cases hrelation : s.relation? model key with
    | some relation =>
      have hleads : s.IsRelationKey model key relation := ⟨hconnective, hrelation⟩
      cases criterion with
      | logical connective operands => exact ⟨_, .logicalUnderField hreached hconnective rfl⟩
      | related quantifier nested =>
        by_cases hjoined : relation.IsJoined
        · have hnested : ¬ Filter.IsWellFormed s relation.target nested :=
            fun hsound => hnot (.related hleads hjoined hsound)
          have hsmaller : sizeOf nested < sizeOf filter := by
            simp only [Criterion.related.sizeOf_spec] at hsize
            omega
          obtain ⟨error, hbreaks⟩ :=
            Filter.breaks_of_not_isWellFormed relation.target nested hnested
          exact ⟨error, .related hreached hleads hjoined hbreaks⟩
        · exact ⟨_, .noJoinTable hreached hleads hjoined⟩
      | _ =>
        exact ⟨_, .relationWithoutQuantifier hreached hleads (by simp [Criterion.isLogical])
          (by simp [Criterion.isRelated])⟩
    | none =>
      have hfield : s.IsValueKey model key := ⟨hconnective, hrelation⟩
      cases criterion with
      | literal value => exact absurd (.literal hfield) hnot
      | comparison operators =>
        have hoperators : ¬ ∀ entry ∈ operators, Comparison.Fits entry.1 entry.2 :=
          fun hfit => hnot (.comparison hfield hfit)
        obtain ⟨error, hbreaks⟩ := Comparison.breaks_of_not_fits key operators hoperators
        exact ⟨error, .comparison hreached hfield hbreaks⟩
      | logical connective operands => exact ⟨_, .logicalUnderField hreached hconnective rfl⟩
      | related quantifier nested =>
        exact ⟨_, .quantifierWithoutRelation hreached hfield rfl⟩
termination_by sizeOf filter

/-! ## Errors -/

/-- Whoever wrote comparisons can mend them. -/
theorem Comparison.Breaks.isArgument {field : String} {operators : Dict Value}
    {error : CompileError} (h : Comparison.Breaks field operators error) : error.isArgument := by
  induction h with
  | negated reached some_entry below ih => exact ih
  | _ => simp [CompileError.isArgument, CompileError.kind]

/-- Whoever wrote a filter can mend it. -/
theorem Filter.Breaks.isArgument {model : String} {filter : Filter} {error : CompileError}
    (h : filter.Breaks s model error) : error.isArgument := by
  induction h with
  | comparison reached field below => exact below.isArgument
  | logical reached combines sound below ih => exact ih
  | related reached leads joined below ih => exact ih
  | _ => simp [CompileError.isArgument, CompileError.kind]

end RelationalQuery
