/-!
# Ordered dictionaries

Filters, records, selections and schemas are all read in the order in which they were written. A
`Dict` is therefore the list of its entries: a key keeps the position at which it was first set, and
setting it again replaces the value there.

`get?_put` says what a key holds after `put`.
-/

namespace RelationalQuery

/-- Values under text keys, in the order in which the keys were first set. -/
abbrev Dict (α : Type u) := List (String × α)

namespace Dict

variable {α : Type u}

/-- The keys, in order. -/
def keys (entries : Dict α) : List String := entries.map Prod.fst

/-- The value under `key`: that of its first entry. -/
def get? : Dict α → String → Option α
  | [], _ => none
  | (k, v) :: rest, key => if k = key then some v else get? rest key

/-- Whether `key` has an entry. -/
def has (entries : Dict α) (key : String) : Bool := (entries.get? key).isSome

/-- Sets `key`, in its old place if it has one and after all others if not. -/
def put : Dict α → String → α → Dict α
  | [], key, value => [(key, value)]
  | (k, v) :: rest, key, value =>
    if k = key then (k, value) :: rest else (k, v) :: put rest key value

/-- Sets every entry of `others`, one after the other. -/
def putAll (entries others : Dict α) : Dict α :=
  others.foldl (fun sofar entry => sofar.put entry.1 entry.2) entries

/-- The dictionary that setting `entries` one after the other leaves. -/
def ofList (entries : List (String × α)) : Dict α := putAll [] entries

/-- Takes `key` out. The last entry moves into the place that becomes free. -/
def takeOut : Dict α → String → Dict α
  | [], _ => []
  | (k, v) :: rest, key =>
    if k = key then
      match rest.getLast? with
      | some last => last :: rest.dropLast
      | none => []
    else (k, v) :: takeOut rest key

@[simp] theorem keys_nil : keys ([] : Dict α) = [] := rfl

@[simp] theorem keys_cons (entry : String × α) (rest : Dict α) :
    keys (entry :: rest) = entry.1 :: keys rest := rfl

@[simp] theorem get?_nil (key : String) : get? ([] : Dict α) key = none := rfl

theorem get?_cons (k : String) (v : α) (rest : Dict α) (key : String) :
    get? ((k, v) :: rest) key = if k = key then some v else get? rest key := rfl

/-- Setting a key changes what that key holds and nothing else. -/
theorem get?_put (entries : Dict α) (key other : String) (value : α) :
    (entries.put key value).get? other =
      if key = other then some value else entries.get? other := by
  induction entries with
  | nil => simp [put, get?]
  | cons entry rest ih =>
    obtain ⟨k, v⟩ := entry
    by_cases h : k = key <;> by_cases h' : k = other <;> grind [put, get?]

/-- Setting a key adds no other entry. -/
theorem mem_put {entries : Dict α} {key : String} {value : α} {entry : String × α}
    (h : entry ∈ entries.put key value) : entry = (key, value) ∨ entry ∈ entries := by
  induction entries with
  | nil => exact .inl (List.mem_singleton.mp h)
  | cons first rest ih =>
    obtain ⟨k, v⟩ := first
    by_cases hk : k = key <;> grind [put]

end Dict

end RelationalQuery
