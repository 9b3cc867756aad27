import RelationalQuery.Compiler
import RelationalQuery.Proofs.Compile.Standard
import RelationalQuery.Proofs.Sql.Rendering

/-!
# Placeholders and arguments

A statement is `Aligned` if a scan of its text finds as many placeholders as there are arguments,
each argument has its own tag, and where placeholders are numbered, their numbers are those of the
arguments, each written once.

## Shape of the proof

The scan runs through a rendered fragment piece by piece. What a fragment is written of decides that
it never loses its place: names stay inside of their quotes, phrases are plain, and behind a number
stands no further digit. So the scan reads off the numbers that were given out, in their order.

`HandsOut` lists the statements that a compiler hands out. Each has the text of one of its `Plans`
(`exists_plans_of_handsOut`), so what is to be said of texts is proved of plans.
-/

namespace RelationalQuery

open Sql Compile

namespace Fragment

variable {d : Dialect}

/-- All words of what is written are plain. -/
theorem all_isPlain_of_isWritten {words : String} (h : IsPhrase d words ∨ words ∈ constants) :
    words.toList.all isPlain := by
  rcases h with hphrase | hconstant
  · exact all_isPlain_of_isPhrase hphrase
  · have hconstants : ∀ words ∈ constants, words.toList.all isPlain := by decide
    exact hconstants words hconstant

/-- The text of what may stand behind a value does not start with a digit. -/
theorem head_renderFrom {f : Fragment} (h : Written d true f)
    (params before : List (ParamGroup × Value)) :
    (renderFrom d params before f).toList.head?.any Text.isDigit = false := by
  cases f with
  | nil => rfl
  | cons piece rest =>
    cases piece with
    | text words =>
      obtain ⟨hwords, hstart, -⟩ := h
      have hconstants : ∀ words ∈ constants, startsInWord words = true := by decide
      rw [renderFrom, String.toList_append]
      refine head_isPhrase (hwords.resolve_right fun hconstant => ?_) _
      exact Bool.false_ne_true ((hstart rfl).symm.trans (hconstants words hconstant))
    | name identifier =>
      rw [renderFrom, String.toList_append, Dialect.quote, String.toList_ofList,
        Dialect.quoteChars]
      cases d <;> rfl
    | param group value =>
      rw [renderFrom, String.toList_append, toList_placeholder]
      cases d <;> rfl

/-- A scan of a rendered fragment reads its numbers in the order of the text, or where placeholders
have none, one placeholder for each value. -/
theorem placeholders_renderFrom {tight : Bool} {f : Fragment} (h : Written d tight f)
    (params before : List (ParamGroup × Value)) :
    placeholders none (renderFrom d params before f).toList =
      (numbersFrom params before f.params).map fun n => if d.isNumbered then some n else none := by
  induction f generalizing tight before with
  | nil => rfl
  | cons piece rest ih =>
    cases piece with
    | text words =>
      obtain ⟨hwords, -, hrest⟩ := h
      have hplain := all_isPlain_of_isWritten hwords
      rw [renderFrom, String.toList_append, placeholders_plain hplain, ih hrest, Fragment.params]
    | name identifier =>
      rw [renderFrom, String.toList_append, Dialect.quote, String.toList_ofList,
        placeholders_quoteChars, ih h, Fragment.params]
    | param group value =>
      -- what follows a value starts with no digit, so its number ends where it should
      have hhead := head_renderFrom h params (before ++ [(group, value)])
      rw [renderFrom, String.toList_append, placeholders_placeholder d _ hhead, ih h,
        Fragment.params, numbersFrom, List.map_cons]
      cases d <;> rfl

/-- As many values are bound as a fragment has. -/
theorem length_arguments (numbered : Bool) (params : List (ParamGroup × Value)) :
    (arguments numbered params).length = params.length :=
  (arguments_perm numbered params).length_eq.trans (List.length_map _)

end Fragment

open Fragment

/-! ## Statements -/

/-- Whether text, arguments and tags of a statement belong together. -/
structure Statement.Aligned (d : Dialect) (s : Statement) : Prop where
  /-- There are as many placeholders as arguments. -/
  count : s.placeholderCount = s.args.length
  /-- There are as many tags as arguments. -/
  tags : s.argTypes.length = s.args.length
  /-- Each tag is that of its argument. -/
  tag (i : Nat) (h : i < s.args.length) : s.argTypes[i]? = some (BindType.of s.args[i])
  /-- Numbered placeholders have the numbers of the arguments, each once. -/
  numbers : d = .postgres → s.numbers.Perm (List.range' 1 s.args.length)

namespace Statement

variable {d : Dialect}

/-- Where every argument has its own tag, only the text has to be looked at. -/
theorem Tagged.aligned {s : Statement} (h : s.Tagged) (count : s.placeholderCount = s.args.length)
    (numbers : d = .postgres → s.numbers.Perm (List.range' 1 s.args.length)) : s.Aligned d where
  count := count
  tags := by rw [h, List.length_map]
  tag i hi := by rw [h, List.getElem?_map, List.getElem?_eq_getElem hi, Option.map_some]
  numbers := numbers

/-- In an aligned statement every argument has its own tag. -/
theorem Aligned.tagged {s : Statement} (h : s.Aligned d) : s.Tagged := by
  refine List.ext_getElem? fun i => ?_
  rw [List.getElem?_map]
  rcases Nat.lt_or_ge i s.args.length with hi | hi
  · rw [h.tag i hi, List.getElem?_eq_getElem hi, Option.map_some]
  · rw [List.getElem?_eq_none hi, List.getElem?_eq_none (h.tags ▸ hi)]
    rfl

/-- The statement of what is written of phrases is aligned. -/
theorem aligned_ofFragment {f : Fragment} (h : Written d false f) (returnsRows : Bool) :
    (ofFragment d returnsRows f).Aligned d := by
  have hscan := placeholders_renderFrom h f.params []
  refine (tagged_ofFragment d returnsRows f).aligned ?_ fun hd => ?_
  · rw [ofFragment_eq, placeholderCount, countPlaceholders_eq, hscan, List.length_map,
      length_numbersFrom, length_arguments]
  · subst hd
    rw [ofFragment_eq, numbers, hscan, length_arguments, List.filterMap_map]
    have hsome : (id ∘ fun n => if Dialect.postgres.isNumbered then some n else none) =
        (some : Nat → Option Nat) := rfl
    rw [hsome, List.filterMap_some]
    exact numbersFrom_perm f.params

/-- Another first argument leaves a statement aligned. -/
theorem Aligned.withFirstArg {s : Statement} (h : s.Aligned d) (value : Value) :
    (s.withFirstArg value).Aligned d := by
  have hsql : (s.withFirstArg value).sql = s.sql := sql_withFirstArg s value
  have hargs : (s.withFirstArg value).args.length = s.args.length := by
    cases hargs : s.args with
    | nil =>
      rw [Statement.withFirstArg, hargs]
      exact congrArg List.length hargs
    | cons first rest => rw [h.tagged.withFirstArg_eq hargs, List.length_cons, List.length_cons]
  refine (h.tagged.withFirstArg value).aligned ?_ fun hd => ?_
  · rw [placeholderCount, hsql, hargs]
    exact h.count
  · rw [Statement.numbers, hsql, hargs]
    exact h.numbers hd

end Statement

/-! ## Compilers -/

namespace Compiler

variable {k : Compiler} {q : Query} {s : Statement}

/-- The statements that a compiler hands out for a query: the statement of the query, or those of
its mutation, before and after an id is bound. -/
inductive HandsOut (k : Compiler) (q : Query) : Statement → Prop
  | statement {s : Statement} (h : k.statement q = .ok s) : HandsOut k q s
  | main {m : Mutation} (h : k.mutation q = .ok m) : HandsOut k q m.main
  | relation {m : Mutation} {s : Statement} (h : k.mutation q = .ok m) (hs : s ∈ m.relations) :
    HandsOut k q s
  | bound {m : Mutation} {s : Statement} (h : k.mutation q = .ok m) (id : Value)
    (hs : s ∈ m.bindGeneratedId id) : HandsOut k q s

/-- The plans of the statements that a compiler hands out for a query. -/
inductive Plans (k : Compiler) (q : Query) : Plan → Prop
  | statement {p : Plan} (h : plan k.context (k.dialect.has .filteredAggregates) q = .ok p) :
    Plans k q p
  | main {m : MutationPlan}
    (h : planMutation k.context (k.dialect.has .filteredAggregates) q = .ok m) : Plans k q m.main
  | relation {m : MutationPlan} {w : Sql.Write}
    (h : planMutation k.context (k.dialect.has .filteredAggregates) q = .ok m)
    (hw : w ∈ m.junctions) : Plans k q (.write w)

/-- Every statement that a compiler hands out has the text of one of its plans. -/
theorem exists_plans_of_handsOut (h : k.HandsOut q s) :
    ∃ p, k.Plans q p ∧ s.sql = (p.statement k.dialect).sql := by
  have hrelation {m : Mutation} {s : Statement} (hm : k.mutation q = .ok m)
      (hs : s ∈ m.relations) : ∃ p, k.Plans q p ∧ s.sql = (p.statement k.dialect).sql := by
    obtain ⟨m, hplan, rfl⟩ := map_eq_ok_iff.mp hm
    obtain ⟨w, hw, rfl⟩ := List.mem_map.mp hs
    exact ⟨.write w, .relation hplan hw, rfl⟩
  cases h with
  | statement h =>
    obtain ⟨p, hplan, rfl⟩ := map_eq_ok_iff.mp h
    exact ⟨p, .statement hplan, rfl⟩
  | main h =>
    obtain ⟨m, hplan, rfl⟩ := map_eq_ok_iff.mp h
    exact ⟨m.main, .main hplan, rfl⟩
  | relation h hs => exact hrelation h hs
  | bound h id hs =>
    -- another first argument leaves the text as it is
    obtain ⟨unbound, hunbound, rfl⟩ := List.mem_map.mp hs
    obtain ⟨p, hplans, hsql⟩ := hrelation h hunbound
    exact ⟨p, hplans, (Statement.sql_withFirstArg unbound id).trans hsql⟩

/-- The statement of a plan that is written of phrases is aligned. -/
theorem aligned_plan {d : Dialect} {p : Plan} (h : Written d false (p.fragment d)) :
    (p.statement d).Aligned d := by
  cases p with
  | read r =>
    have hread := Statement.aligned_ofFragment h true
    exact ⟨hread.count, hread.tags, hread.tag, hread.numbers⟩
  | write w => exact Statement.aligned_ofFragment h (w.returnsRows d)

/-- The statements on join tables are aligned. -/
theorem aligned_of_mem_relations {m : Mutation} (h : k.mutation q = .ok m)
    (hs : s ∈ m.relations) : s.Aligned k.dialect := by
  rw [mutation, map_eq_ok_iff] at h
  obtain ⟨p, -, rfl⟩ := h
  obtain ⟨w, -, rfl⟩ := List.mem_map.mp hs
  exact Statement.aligned_ofFragment w.written_fragment (w.returnsRows k.dialect)

/-- Every statement that a compiler hands out is aligned, whatever its names contain. -/
theorem aligned_of_handsOut (h : k.HandsOut q s) : s.Aligned k.dialect := by
  cases h with
  | statement h =>
    rw [Compiler.statement, map_eq_ok_iff] at h
    obtain ⟨p, hp, rfl⟩ := h
    exact aligned_plan (written_of_planned (planned_of_plan hp))
  | main h =>
    rw [mutation, map_eq_ok_iff] at h
    obtain ⟨p, hp, rfl⟩ := h
    obtain ⟨q', hplanned, -, -⟩ := planned_of_planMutation hp
    exact aligned_plan (written_of_planned hplanned)
  | relation h hs => exact aligned_of_mem_relations h hs
  | bound h id hs =>
    obtain ⟨unbound, hunbound, rfl⟩ := List.mem_map.mp hs
    exact (aligned_of_mem_relations h hunbound).withFirstArg id

/-- A query whose model and field have quotes and placeholders in their names. -/
def oddNames : Query :=
  { model := "a\"?$1", action := .update
    arguments := { filter := some [("b'?$2", .literal (.text "?"))]
                   data := some (.one [("c\"$", .value (.int 1))]) } }

/-- Quotes and placeholders in names do no harm. -/
theorem aligned_oddNames :
    ∃ s, ({ dialect := .postgres } : Compiler).statement oddNames = .ok s ∧
      s.args.length = 2 ∧ s.Aligned .postgres :=
  ⟨_, rfl, rfl, aligned_of_handsOut (k := { dialect := .postgres }) (q := oddNames)
    (.statement rfl)⟩

end Compiler

end RelationalQuery
