import Mathlib.Data.List.Forall2
import RelationalQuery.Proofs.Blank.Value
import RelationalQuery.Proofs.Sql.Rendering

/-!
# Blank statements

The text of a statement does not depend on the values of its fragment, except for their number and
their groups. A fragment with blank values is therefore rendered as the same text, with the same
arguments in blank.
-/

namespace RelationalQuery

/-! ## Fragments -/

/-- The piece with a blank value, if it has one. -/
def Piece.blank : Piece → Piece
  | text words => text words
  | name identifier => name identifier
  | param group value => param group value.blank

/-- The fragment with blank values. -/
def Fragment.blank (f : Fragment) : Fragment := f.map Piece.blank

namespace Fragment

@[simp] theorem blank_append (f g : Fragment) : blank (f ++ g) = blank f ++ blank g :=
  List.map_append

@[simp] theorem blank_ofText (words : String) : blank (ofText words) = ofText words := rfl

@[simp] theorem blank_ofName (identifier : String) : blank (ofName identifier) = ofName identifier :=
  rfl

@[simp] theorem blank_ofParam (group : ParamGroup) (value : Value) :
    blank (ofParam group value) = ofParam group value.blank := rfl

@[simp] theorem blank_wrap (opening closing : String) (inner : Fragment) :
    blank (wrap opening inner closing) = wrap opening (blank inner) closing := by
  rw [wrap, wrap, blank, List.map_cons, List.map_append]
  rfl

@[simp] theorem blank_join (separator : String) (fs : List Fragment) :
    blank (join separator fs) = join separator (fs.map blank) := by
  induction fs with
  | nil => rfl
  | cons first rest ih =>
    cases rest with
    | nil => rfl
    | cons second rest =>
      show blank (first ++ .text separator :: join separator (second :: rest)) = _
      rw [blank_append]
      exact congrArg (fun f => blank first ++ .text separator :: f) ih

/-! ## Rendering -/

/-- The number of a value is decided by the groups of the values. -/
theorem number_congr {params params' before before' : List (ParamGroup × Value)}
    (hparams : params.map Prod.fst = params'.map Prod.fst)
    (hbefore : before.map Prod.fst = before'.map Prod.fst) (numbered : Bool) (group : ParamGroup) :
    number numbered params before group = number numbered params' before' group := by
  have hfilter (p : ParamGroup → Bool) (l : List (ParamGroup × Value)) :
      (l.filter fun param => p param.1).length = ((l.map Prod.fst).filter p).length := by
    rw [List.filter_map, List.length_map]
    rfl
  have hlength (l : List (ParamGroup × Value)) : l.length = (l.map Prod.fst).length :=
    (List.length_map Prod.fst).symm
  rw [number, number]
  split
  · rw [hfilter (fun g => g.rank < group.rank) params, hfilter (fun g => g = group) before,
      hparams, hbefore, ← hfilter, ← hfilter]
  · rw [hlength before, hbefore, ← hlength]

/-- The text does not depend on the values. -/
theorem renderFrom_blank (d : Dialect) (f : Fragment)
    {params params' before before' : List (ParamGroup × Value)}
    (hparams : params.map Prod.fst = params'.map Prod.fst)
    (hbefore : before.map Prod.fst = before'.map Prod.fst) :
    renderFrom d params before f.blank = renderFrom d params' before' f := by
  -- of the values in front only their groups are kept in step along the fragment
  induction f generalizing before before' with
  | nil => rfl
  | cons piece rest ih =>
    cases piece with
    | text words =>
      show words ++ renderFrom d params before (blank rest) = _
      rw [ih hbefore]
      rfl
    | name identifier =>
      show d.quote identifier ++ renderFrom d params before (blank rest) = _
      rw [ih hbefore]
      rfl
    | param group value =>
      have hnext : (before ++ [(group, value.blank)]).map Prod.fst =
          (before' ++ [(group, value)]).map Prod.fst := by
        rw [List.map_append, List.map_append, hbefore]
        rfl
      show d.placeholder (number d.isNumbered params before group) ++
        renderFrom d params (before ++ [(group, value.blank)]) (blank rest) = _
      rw [ih hnext, number_congr hparams hbefore]
      rfl

/-- The values of a fragment with blank values. -/
theorem params_blank (f : Fragment) :
    params f.blank = (params f).map fun param => (param.1, param.2.blank) := by
  induction f with
  | nil => rfl
  | cons piece rest ih =>
    cases piece with
    | text words => exact ih
    | name identifier => exact ih
    | param group value => exact congrArg (_ :: ·) ih

/-- Values are bound in the same order when they are blank. -/
theorem arguments_blank (numbered : Bool) (params : List (ParamGroup × Value)) :
    arguments numbered (params.map fun param => (param.1, param.2.blank)) =
      (arguments numbered params).map Value.blank := by
  rw [arguments, arguments]
  split
  · rw [List.map_flatMap]
    refine congrArg (List.flatMap · ParamGroup.ordered) (funext fun group => ?_)
    rw [List.filter_map, List.map_map, List.map_map]
    rfl
  · rw [List.map_map, List.map_map]
    rfl

end Fragment

/-! ## Statements -/

/-- The statement with blank arguments and their tags. -/
def Statement.blank (s : Statement) : Statement :=
  { s with
    args := s.args.map Value.blank
    argTypes := (s.args.map Value.blank).map BindType.of }

/-- The mutation with blank arguments. -/
def Mutation.blank (m : Mutation) : Mutation :=
  { m with main := m.main.blank, relations := m.relations.map Statement.blank }

/-- A fragment with blank values becomes the statement with blank arguments. -/
theorem Statement.ofFragment_blank (d : Dialect) (returnsRows : Bool) (f : Fragment) :
    ofFragment d returnsRows f.blank = (ofFragment d returnsRows f).blank := by
  have hgroups : f.blank.params.map Prod.fst = f.params.map Prod.fst := by
    rw [Fragment.params_blank, List.map_map]
    rfl
  have htext : Fragment.renderFrom d f.blank.params [] f.blank =
      Fragment.renderFrom d f.params [] f := Fragment.renderFrom_blank d f hgroups rfl
  have hargs : Fragment.arguments d.isNumbered f.blank.params =
      (Fragment.arguments d.isNumbered f.params).map Value.blank := by
    rw [Fragment.params_blank, Fragment.arguments_blank]
  rw [Fragment.ofFragment_eq, Fragment.ofFragment_eq, htext, hargs]
  rfl

/-- Whether statements differ in their arguments only, and there by alike values. -/
structure Statement.Alike (s s' : Statement) : Prop where
  sql : s.sql = s'.sql
  args : Value.AlikeItems s.args s'.args
  returnsRows : s.returnsRows = s'.returnsRows
  computed : s.computed = s'.computed
  inclusions : s.inclusions = s'.inclusions

/-- Whether mutations have as many statements, which are alike one by one, and read the generated
id from the same column. -/
structure Mutation.Alike (m m' : Mutation) : Prop where
  main : m.main.Alike m'.main
  relations : List.Forall₂ Statement.Alike m.relations m'.relations
  generatedId : m.generatedId = m'.generatedId

/-- Statements are alike if they are the same with blank arguments. -/
theorem Statement.alike_of_blank {s s' : Statement} (h : s.blank = s'.blank) : s.Alike s' := by
  have hargs : s.args.map Value.blank = s'.args.map Value.blank := (congrArg Statement.args h :)
  exact
    { sql := (congrArg Statement.sql h :)
      args := by
        rw [Value.alikeItems_iff, Value.blankItems_eq_map, Value.blankItems_eq_map, hargs]
      returnsRows := (congrArg Statement.returnsRows h :)
      computed := (congrArg Statement.computed h :)
      inclusions := (congrArg Statement.inclusions h :) }

/-- Mutations are alike if they are the same with blank arguments. -/
theorem Mutation.alike_of_blank {m m' : Mutation} (h : m.blank = m'.blank) : m.Alike m' := by
  have hrelations : m.relations.map Statement.blank = m'.relations.map Statement.blank :=
    (congrArg Mutation.relations h :)
  exact
    { main := Statement.alike_of_blank (congrArg Mutation.main h :)
      relations := by
        rw [← List.forall₂_eq_eq_eq, List.forall₂_map_left_iff, List.forall₂_map_right_iff]
          at hrelations
        exact hrelations.imp fun _ _ => Statement.alike_of_blank
      generatedId := (congrArg Mutation.generatedId h :) }

end RelationalQuery
