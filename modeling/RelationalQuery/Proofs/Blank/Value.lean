import RelationalQuery.Value.Basic

/-!
# Blank values

Two values are alike if they have the same shape: they differ in their scalars only, of whatever
kinds these are. `Value.blank` forgets all scalars, and `alike_iff` says that it forgets nothing
else: values are alike if they are the same once they are blanked.

## Shape of the statements on blanks

That a part of the program cannot tell alike values apart is stated of a single run. What it makes
of a blanked input is, once blanked, what it makes of the input itself. Two runs on alike inputs
are then both compared with the run on the one blanked input that they have in common.
-/

namespace RelationalQuery

namespace Dict

variable {α β : Type}

/-- The same keys with other values. -/
def mapValues (f : α → β) (entries : Dict α) : Dict β :=
  entries.map fun entry => (entry.1, f entry.2)

@[simp] theorem mapValues_cons (f : α → β) (entry : String × α) (rest : Dict α) :
    mapValues f (entry :: rest) = (entry.1, f entry.2) :: mapValues f rest := rfl

@[simp] theorem keys_mapValues (f : α → β) (entries : Dict α) :
    (mapValues f entries).keys = entries.keys := by
  induction entries with
  | nil => rfl
  | cons entry rest ih => rw [mapValues_cons, keys_cons, keys_cons, ih]

@[simp] theorem get?_mapValues (f : α → β) (entries : Dict α) (key : String) :
    (mapValues f entries).get? key = (entries.get? key).map f := by
  induction entries with
  | nil => rfl
  | cons entry rest ih =>
    rw [mapValues_cons, get?_cons, get?_cons, ih]
    split <;> rfl

@[simp] theorem isEmpty_mapValues (f : α → β) (entries : Dict α) :
    (mapValues f entries).isEmpty = entries.isEmpty := List.isEmpty_map

end Dict

namespace Value

/-- Whether a value is neither null nor made of other values. -/
def IsScalar : Value → Prop
  | null | list _ | object _ => False
  | _ => True

mutual

/-- Whether two values differ in their scalars only: both are null, both are scalars, or they are
lists of the same length or objects with the same keys, whose values are alike. -/
def Alike : Value → Value → Prop
  | null, null => True
  | list as, list bs => AlikeItems as bs
  | object as, object bs => AlikeMembers as bs
  | a, b => a.IsScalar ∧ b.IsScalar

/-- Whether two lists have the same length and alike items. -/
def AlikeItems : List Value → List Value → Prop
  | [], [] => True
  | a :: as, b :: bs => Alike a b ∧ AlikeItems as bs
  | _, _ => False

/-- Whether two objects have the same keys in the same order, with alike values. -/
def AlikeMembers : List (String × Value) → List (String × Value) → Prop
  | [], [] => True
  | (key, a) :: as, (key', b) :: bs => key = key' ∧ Alike a b ∧ AlikeMembers as bs
  | _, _ => False

end

mutual

/-- The value with one and the same scalar in place of all of its scalars. -/
def blank : Value → Value
  | null => null
  | list items => list (blankItems items)
  | object members => object (blankMembers members)
  | _ => text ""

/-- The values of a list, blanked. -/
def blankItems : List Value → List Value
  | [] => []
  | item :: rest => blank item :: blankItems rest

/-- The values of an object, blanked. -/
def blankMembers : List (String × Value) → List (String × Value)
  | [] => []
  | (key, value) :: rest => (key, blank value) :: blankMembers rest

end

theorem blankItems_eq_map (items : List Value) : blankItems items = items.map blank := by
  induction items with
  | nil => rfl
  | cons item rest ih => rw [blankItems, List.map_cons, ih]

theorem blankMembers_eq_mapValues (members : List (String × Value)) :
    blankMembers members = Dict.mapValues blank members := by
  induction members with
  | nil => rfl
  | cons member rest ih => rw [blankMembers, Dict.mapValues_cons, ih]

mutual

/-- Values are alike if nothing is left of their difference once they are blanked. -/
theorem alike_iff : ∀ a b : Value, a.Alike b ↔ a.blank = b.blank
  | list as, b => by
    cases b with
    | list bs =>
      rw [Alike, blank, blank, list.injEq]
      exact alikeItems_iff as bs
    | _ => simp [Alike, blank, IsScalar]
  | object as, b => by
    cases b with
    | object bs =>
      rw [Alike, blank, blank, object.injEq]
      exact alikeMembers_iff as bs
    | _ => simp [Alike, blank, IsScalar]
  | null, b => by cases b <;> simp [Alike, blank, IsScalar]
  | bool _, b | int _, b | float _, b | text _, b | moment _, b | json _, b | bytes _, b => by
    cases b <;> simp [Alike, blank, IsScalar]

/-- Lists are alike if they are the same once they are blanked. -/
theorem alikeItems_iff : ∀ as bs : List Value, AlikeItems as bs ↔ blankItems as = blankItems bs
  | [], [] => by simp only [AlikeItems]
  | [], _ :: _ => by simp only [AlikeItems, blankItems, reduceCtorEq]
  | _ :: _, [] => by simp only [AlikeItems, blankItems, reduceCtorEq]
  | a :: as, b :: bs => by
    rw [AlikeItems, blankItems, blankItems, List.cons.injEq, alike_iff a b, alikeItems_iff as bs]

/-- Objects are alike if they are the same once they are blanked. -/
theorem alikeMembers_iff : ∀ as bs : List (String × Value),
    AlikeMembers as bs ↔ blankMembers as = blankMembers bs
  | [], [] => by simp only [AlikeMembers]
  | [], _ :: _ => by simp only [AlikeMembers, blankMembers, reduceCtorEq]
  | _ :: _, [] => by simp only [AlikeMembers, blankMembers, reduceCtorEq]
  | (key, a) :: as, (key', b) :: bs => by
    rw [AlikeMembers, blankMembers, blankMembers, List.cons.injEq, Prod.mk.injEq, and_assoc,
      alike_iff a b, alikeMembers_iff as bs]

end

mutual

/-- A blanked value is blank. -/
@[simp] theorem blank_blank : ∀ value : Value, value.blank.blank = value.blank
  | list items => by rw [blank, blank, blankItems_blankItems items]
  | object members => by rw [blank, blank, blankMembers_blankMembers members]
  | null | bool _ | int _ | float _ | text _ | moment _ | json _ | bytes _ => rfl

@[simp] theorem blankItems_blankItems :
    ∀ items : List Value, blankItems (blankItems items) = blankItems items
  | [] => rfl
  | item :: rest => by rw [blankItems, blankItems, blank_blank item, blankItems_blankItems rest]

@[simp] theorem blankMembers_blankMembers :
    ∀ members : List (String × Value), blankMembers (blankMembers members) = blankMembers members
  | [] => rfl
  | (key, value) :: rest => by
    rw [blankMembers, blankMembers, blank_blank value, blankMembers_blankMembers rest]

end

end Value

end RelationalQuery
