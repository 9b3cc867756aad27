import RelationalQuery.Sql.Dialect
import RelationalQuery.Value.Basic

/-!
# Fragments

A statement is put together from fragments, lists of pieces of text, names and values. It is
rendered once, at the end: names are then quoted, and each value gives way to a placeholder. Text
and arguments come out of the same pass, so they cannot disagree.

## Shape of the arguments

Placeholders without numbers bind by their place in the text, so the arguments follow the text.
Numbered placeholders bind by their number: the arguments are then sorted by the group that a value
belongs to, and within a group they follow the text.

The number of a value has to be known when the pass comes to it, before the values behind it have
been seen. So the places of the values are put in order first (`bindingPlaces`) and the order is
inverted (`numbersOf`). The pass then writes the number of a value into the text and the value into
the slot of that number.
-/

namespace RelationalQuery

/-- Which part of a statement a value belongs to. -/
inductive ParamGroup
  /-- Data that is written. -/
  | data
  /-- The conditions on the rows that are read or written. -/
  | condition
  /-- The conditions of filtered counts. -/
  | filter
  /-- Computed fields. -/
  | computed
  /-- The conditions on joined rows. -/
  | join
  deriving DecidableEq, Repr

namespace ParamGroup

/-- The place of a group among the arguments. -/
def rank : ParamGroup → Nat
  | data => 0
  | condition => 1
  | filter => 2
  | computed => 3
  | join => 4

end ParamGroup

section Sorting

variable {α : Type} (key : α → Nat)

/-- Puts an entry in front of the first one whose key is not smaller. -/
def insertByKey (entry : α) : List α → List α
  | [] => [entry]
  | first :: rest =>
    if key entry ≤ key first then entry :: first :: rest else first :: insertByKey entry rest

/-- Sorts by a key. Entries with the same key keep their order. -/
def sortByKey : List α → List α
  | [] => []
  | first :: rest => insertByKey key first (sortByKey rest)

end Sorting

/-- A piece of a statement. -/
inductive Piece
  | text (words : String)
  /-- A name, which is written in quotes. -/
  | name (identifier : String)
  /-- A value, which is bound. -/
  | param (group : ParamGroup) (value : Value)
  deriving Inhabited, Repr

/-- A part of a statement: its pieces, in order. -/
abbrev Fragment := List Piece

namespace Fragment

/-- A piece of text. -/
def ofText (words : String) : Fragment := [.text words]

/-- A name. -/
def ofName (identifier : String) : Fragment := [.name identifier]

/-- A bound value. -/
def ofParam (group : ParamGroup) (value : Value) : Fragment := [.param group value]

/-- A fragment between two pieces of text. -/
def wrap (opening : String) (inner : Fragment) (closing : String) : Fragment :=
  .text opening :: (inner ++ [.text closing])

/-- Fragments one after the other, with text between them. -/
def join (separator : String) : List Fragment → Fragment
  | [] => []
  | [last] => last
  | first :: rest => first ++ .text separator :: join separator rest

/-- The values of a fragment with their groups, in the order of the text. -/
def params : Fragment → List (ParamGroup × Value)
  | [] => []
  | .param group value :: rest => (group, value) :: params rest
  | .text _ :: rest => params rest
  | .name _ :: rest => params rest

@[simp] theorem params_append (a b : Fragment) : params (a ++ b) = params a ++ params b := by
  induction a with
  | nil => rfl
  | cons piece rest ih => cases piece <;> simp [params, ih]

/-- The places of the values in the text, in the order in which they are bound. -/
def bindingPlaces (numbered : Bool) (groups : List ParamGroup) : List Nat :=
  if numbered then (sortByKey (·.1.rank) groups.zipIdx).map Prod.snd
  else List.range groups.length

/-- The numbers of the values, from one on, in the order of the text. -/
def numbersOf (places : List Nat) : List Nat :=
  places.zipIdx.foldl (fun numbers entry => numbers.set entry.1 (entry.2 + 1))
    (List.replicate places.length 0)

/-- A statement that is being rendered. -/
structure Rendering where
  text : String := ""
  /-- The arguments by their number. One is missing until its value is met in the text. -/
  slots : List (Option Value)
  /-- How many values have been met. -/
  met : Nat := 0

/-- Goes on with a piece. -/
def Rendering.push (d : Dialect) (numbers : List Nat) (r : Rendering) : Piece → Rendering
  | .text words => { r with text := r.text ++ words }
  | .name identifier => { r with text := r.text ++ d.quote identifier }
  | .param _ value =>
    let number := numbers[r.met]?.getD 0
    { text := r.text ++ d.placeholder number
      slots := r.slots.set (number - 1) (some value)
      met := r.met + 1 }

/-- The text of a statement and its arguments. -/
def render (d : Dialect) (fragment : Fragment) : String × List Value :=
  let groups := fragment.params.map Prod.fst
  let numbers := numbersOf (bindingPlaces d.isNumbered groups)
  let start : Rendering := { slots := List.replicate groups.length none }
  let r := fragment.foldl (Rendering.push d numbers) start
  (r.text, r.slots.filterMap id)

end Fragment

end RelationalQuery
