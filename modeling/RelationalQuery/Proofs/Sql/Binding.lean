import RelationalQuery.Proofs.Sql.Params

/-!
# Values and their placeholders

Where placeholders are numbered, the text and the arguments of a statement are in different orders,
and only the numbers tell which value belongs to which placeholder. `Fragment.Binds` says that they
tell it rightly: the arguments are the values of the text, sorted by group, and the number in the
place of a value is that of the very same value among the arguments.

So a statement says the same with numbers and without them. Taken apart into `Part`s, its
placeholders are filled again with the arguments that the database finds for them, and what comes out
is the fragment with its values written in place (`fill_parts`).

## Shape of the proof

What the pass over a fragment comes to is known (`render_eq`), and so is the place of a value among
the arguments (`getElem?_bindingOrder`). The parts are then filled along the fragment: a placeholder
finds its value by its number, or without one by how many placeholders stand in front of it.
-/

namespace RelationalQuery

namespace Fragment

open ParamGroup

/-! ## Filling placeholders -/

/-- A part of the text of a statement. -/
inductive Part
  | words (text : String)
  /-- A placeholder with the number of its argument, from one on. -/
  | numbered (number : Nat)
  /-- A placeholder for the next argument. -/
  | anonymous
  deriving Repr

namespace Part

/-- How a part is written. -/
def text : Part → String
  | words text => text
  | numbered number => s!"${number}"
  | anonymous => "?"

/-- The parts with the arguments of a statement in place of their placeholders, each written by
`write`; `next` is how many arguments have been taken by placeholders without numbers. There is no
such text where an argument is missing. -/
def fill (write : Value → String) (args : List Value) (next : Nat) : List Part → Option String
  | [] => some ""
  | words text :: rest => (text ++ ·) <$> fill write args next rest
  | numbered 0 :: _ => none
  | numbered (n + 1) :: rest => do
    let value ← args[n]?
    return write value ++ (← fill write args next rest)
  | anonymous :: rest => do
    let value ← args[next]?
    return write value ++ (← fill write args (next + 1) rest)

end Part

/-- The parts of the text of a fragment after the values `before`; `params` are all values of the
statement. -/
def parts (d : Dialect) (params before : List (ParamGroup × Value)) : Fragment → List Part
  | [] => []
  | .text words :: rest => .words words :: parts d params before rest
  | .name identifier :: rest => .words (d.quote identifier) :: parts d params before rest
  | .param group value :: rest =>
    (if d.isNumbered then .numbered (number d.isNumbered params before group) else .anonymous) ::
      parts d params (before ++ [(group, value)]) rest

/-- The text of a fragment whose values are written in place. -/
def spelled (d : Dialect) (write : Value → String) : Fragment → String
  | [] => ""
  | .text words :: rest => words ++ spelled d write rest
  | .name identifier :: rest => d.quote identifier ++ spelled d write rest
  | .param _ value :: rest => write value ++ spelled d write rest

variable {d : Dialect}

/-- The parts of a fragment make up its text. -/
theorem join_parts (params before : List (ParamGroup × Value)) (f : Fragment) :
    String.join ((parts d params before f).map Part.text) = renderFrom d params before f := by
  induction f generalizing before with
  | nil => rfl
  | cons piece rest ih =>
    cases piece with
    | text words => rw [parts, List.map_cons, String.join_cons, ih, renderFrom, Part.text]
    | name identifier => rw [parts, List.map_cons, String.join_cons, ih, renderFrom, Part.text]
    | param group value =>
      have hplaceholder (n : Nat) :
          (if d.isNumbered then Part.numbered n else .anonymous).text = d.placeholder n := by
        rw [Dialect.placeholder]
        split <;> rfl
      rw [parts, List.map_cons, String.join_cons, ih, renderFrom, hplaceholder]

/-- Filled with the arguments of their statement, placeholders give way to the values that they
stand for. Without numbers, as many arguments have to be taken as there are values in front. -/
theorem fill_parts (write : Value → String) {params : List (ParamGroup × Value)} {next : Nat}
    (before : List (ParamGroup × Value)) (f : Fragment) (h : params = before ++ Fragment.params f)
    (hnext : d.isNumbered = false → next = before.length) :
    Part.fill write (arguments d.isNumbered params) next (parts d params before f) =
      some (spelled d write f) := by
  induction f generalizing before next with
  | nil => rfl
  | cons piece rest ih =>
    cases piece with
    | text words =>
      rw [parts, Part.fill, ih before h hnext, spelled]
      rfl
    | name identifier =>
      rw [parts, Part.fill, ih before h hnext, spelled]
      rfl
    | param group value =>
      have hparams : before ++ (group, value) :: Fragment.params rest = params := h.symm
      have hrest : params = (before ++ [(group, value)]) ++ Fragment.params rest := by
        rw [h, List.append_assoc]
        rfl
      obtain ⟨n, hn, hplace⟩ :=
        getElem?_bindingOrder d.isNumbered before (Fragment.params rest) (group, value)
      rw [hparams] at hn hplace
      have harg : (arguments d.isNumbered params)[n]? = some value := by
        rw [arguments_eq_bindingOrder, List.getElem?_map, hplace, Option.map_some]
      -- a placeholder finds its argument by its number, or by how many were taken before
      rw [parts, hn, spelled]
      split
      · next hnumbered =>
        have hnever : d.isNumbered = false → next = (before ++ [(group, value)]).length :=
          fun hd => absurd (hd.symm.trans hnumbered) (by decide)
        rw [Part.fill, harg, ih _ hrest hnever]
        rfl
      · next hanonymous =>
        rw [Bool.not_eq_true] at hanonymous
        obtain rfl : next = n := by
          rw [hanonymous] at hn
          exact (hnext hanonymous).trans (Nat.succ.inj hn)
        have htaken : d.isNumbered = false → next + 1 = (before ++ [(group, value)]).length :=
          fun hd => by rw [List.length_append, hnext hd, List.length_singleton]
        rw [Part.fill, harg, ih _ hrest htaken]
        rfl

/-- Fragments whose names are quoted alike are spelled alike. -/
theorem spelled_congr {d' : Dialect} (write : Value → String) {f : Fragment}
    (h : ∀ identifier, .name identifier ∈ f → d.quote identifier = d'.quote identifier) :
    spelled d write f = spelled d' write f := by
  induction f with
  | nil => rfl
  | cons piece rest ih =>
    have hrest := ih fun identifier hmem => h identifier (List.mem_cons_of_mem _ hmem)
    cases piece with
    | name identifier => rw [spelled, spelled, hrest, h identifier List.mem_cons_self]
    | text words => rw [spelled, spelled, hrest]
    | param group value => rw [spelled, spelled, hrest]

/-! ## Statements -/

/-- The text of a statement with its arguments in place of the placeholders. -/
def filled (d : Dialect) (write : Value → String) (f : Fragment) : Option String :=
  Part.fill write (f.render d).2 0 (f.parts d f.params [])

/-- Whether a rendered fragment binds each placeholder to its own value. -/
structure Binds (d : Dialect) (f : Fragment) : Prop where
  /-- The arguments are the values in the order of the text, or where placeholders are numbered,
  sorted by group. -/
  sorted : (f.render d).2 =
    (if d.isNumbered then ParamGroup.sorted Prod.fst f.params else f.params).map Prod.snd
  /-- They are listed by `bindingOrder`, which tells equal values apart. -/
  listed : (f.render d).2 = (bindingOrder d.isNumbered f.params).map (·.1.2)
  /-- In the place of a value stands the placeholder of this very value. -/
  placed (before after : Fragment) (group : ParamGroup) (value : Value)
    (h : f = before ++ .param group value :: after) :
    ∃ n, (f.render d).1 =
        renderFrom d f.params [] before ++ d.placeholder (n + 1) ++
          renderFrom d f.params (before.params ++ [(group, value)]) after ∧
      (bindingOrder d.isNumbered f.params)[n]? = some ((group, value), before.params.length)
  /-- The parts of the fragment make up the text. -/
  joined : String.join ((f.parts d f.params []).map Part.text) = (f.render d).1
  /-- With the arguments in their place it is the fragment with its values written out. -/
  filled (write : Value → String) : f.filled d write = some (f.spelled d write)

/-- Every fragment binds each placeholder to its own value. -/
theorem binds (d : Dialect) (f : Fragment) : f.Binds d where
  sorted := by
    rw [render_eq]
    cases d.isNumbered with
    | true => exact arguments_eq_sorted f.params
    | false => rfl
  listed := by
    rw [render_eq]
    exact arguments_eq_bindingOrder d.isNumbered f.params
  placed before after group value h := by
    have hparams : f.params = before.params ++ (group, value) :: after.params := by
      rw [h, params_append]
      rfl
    obtain ⟨n, hn, hplace⟩ :=
      getElem?_bindingOrder d.isNumbered before.params after.params (group, value)
    rw [← hparams] at hn hplace
    refine ⟨n, ?_, hplace⟩
    rw [render_eq]
    conv_lhs => rw [h]
    rw [renderFrom_append, renderFrom, List.nil_append, ← h, hn, String.append_assoc]
  joined := by
    rw [render_eq]
    exact join_parts f.params [] f
  filled write := by
    rw [Fragment.filled, render_eq]
    exact fill_parts write [] f rfl fun _ => rfl

end Fragment

end RelationalQuery
