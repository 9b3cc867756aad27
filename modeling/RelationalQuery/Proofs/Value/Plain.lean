import RelationalQuery.Value.Document

/-!
# Plain values

A document says some values as they are: those without moments, bytes and documents of their own,
whose numbers are finite. These plain values are read back from their documents, and what is read
from a document whose numbers fit is plain.
-/

namespace RelationalQuery

/-- Whether a document can say a value: it holds no moment, document or bytes, and all of its
numbers are finite. -/
inductive Value.IsPlain : Value → Prop
  | null : IsPlain .null
  | bool {b : Bool} : IsPlain (.bool b)
  | int {n : Int64} : IsPlain (.int n)
  | float {x : Float} (finite : x.isFinite) : IsPlain (.float x)
  | text {s : String} : IsPlain (.text s)
  | list {items : List Value} (plain : ∀ item ∈ items, IsPlain item) : IsPlain (.list items)
  | object {members : List (String × Value)} (plain : ∀ member ∈ members, IsPlain member.2) :
    IsPlain (.object members)

/-- Whether all numbers of a document are 64-bit integers or finite. -/
inductive Json.HasPlainNumbers : Json → Prop
  | null : HasPlainNumbers .null
  | bool {b : Bool} : HasPlainNumbers (.bool b)
  | int {n : Int} (low : Int64.minValue.toInt ≤ n) (high : n ≤ Int64.maxValue.toInt) :
    HasPlainNumbers (.int n)
  | float {x : Float} (finite : x.isFinite) : HasPlainNumbers (.float x)
  | string {s : String} : HasPlainNumbers (.string s)
  | array {items : List Json} (plain : ∀ item ∈ items, HasPlainNumbers item) :
    HasPlainNumbers (.array items)
  | object {members : List (String × Json)} (plain : ∀ member ∈ members, HasPlainNumbers member.2) :
    HasPlainNumbers (.object members)

namespace Value

theorem toJsonItems_eq_map (items : List Value) : toJsonItems items = items.map toJson := by
  induction items with
  | nil => rfl
  | cons item rest ih => rw [toJsonItems, ih, List.map_cons]

theorem toJsonMembers_eq_map (members : List (String × Value)) :
    toJsonMembers members = members.map fun member => (member.1, toJson member.2) := by
  induction members with
  | nil => rfl
  | cons member rest ih => rw [toJsonMembers, ih, List.map_cons]

theorem ofJsonItems_eq_map (items : List Json) : ofJsonItems items = items.map ofJson := by
  induction items with
  | nil => rfl
  | cons item rest ih => rw [ofJsonItems, ih, List.map_cons]

theorem ofJsonMembers_eq_map (members : List (String × Json)) :
    ofJsonMembers members = members.map fun member => (member.1, ofJson member.2) := by
  induction members with
  | nil => rfl
  | cons member rest ih => rw [ofJsonMembers, ih, List.map_cons]

/-- Values are read back from their documents one by one. -/
theorem ofJsonItems_toJsonItems {items : List Value}
    (h : ∀ item ∈ items, ofJson item.toJson = item) : ofJsonItems (toJsonItems items) = items := by
  rw [ofJsonItems_eq_map, toJsonItems_eq_map, List.map_map]
  calc items.map (ofJson ∘ toJson) = items.map id := List.map_congr_left h
    _ = items := List.map_id items

/-- The values of members are read back from their documents under their keys. -/
theorem ofJsonMembers_toJsonMembers {members : List (String × Value)}
    (h : ∀ member ∈ members, ofJson member.2.toJson = member.2) :
    ofJsonMembers (toJsonMembers members) = members := by
  rw [ofJsonMembers_eq_map, toJsonMembers_eq_map, List.map_map]
  have hmember : ∀ member ∈ members, (member.1, ofJson member.2.toJson) = id member :=
    fun member hmember => Prod.ext rfl (h member hmember)
  exact (List.map_congr_left hmember).trans (List.map_id members)

/-- A plain value is read back from its document. -/
theorem ofJson_toJson {v : Value} (h : v.IsPlain) : ofJson v.toJson = v := by
  induction h with
  | null => rfl
  | bool => rfl
  | @int n =>
    rw [toJson, ofJson, if_pos ⟨n.minValue_le_toInt, n.toInt_le⟩, Int64.ofInt_toInt]
  | float finite => rw [toJson, if_pos finite, ofJson]
  | text => rfl
  | list _ ih => rw [toJson, ofJson, ofJsonItems_toJsonItems ih]
  | object _ ih => rw [toJson, ofJson, ofJsonMembers_toJsonMembers ih]

/-- What is read from a document with plain numbers is plain. -/
theorem isPlain_ofJson {json : Json} (h : json.HasPlainNumbers) : (ofJson json).IsPlain := by
  induction h with
  | null => exact .null
  | bool => exact .bool
  | int low high =>
    rw [ofJson, if_pos ⟨low, high⟩]
    exact .int
  | float finite => exact .float finite
  | string => exact .text
  | array _ ih =>
    rw [ofJson, ofJsonItems_eq_map]
    exact .list (List.forall_mem_map.mpr ih)
  | object _ ih =>
    rw [ofJson, ofJsonMembers_eq_map]
    exact .object (List.forall_mem_map.mpr ih)

/-- What is read from a document with plain numbers says the document. -/
theorem toJson_ofJson {json : Json} (h : json.HasPlainNumbers) : (ofJson json).toJson = json := by
  induction h with
  | null => rfl
  | bool => rfl
  | int low high =>
    have hmax : Int64.maxValue.toInt = 2 ^ 63 - 1 := rfl
    rw [ofJson, if_pos ⟨low, high⟩, toJson, Int64.toInt_ofInt_of_le low (by omega)]
  | float finite => rw [ofJson, toJson, if_pos finite]
  | string => rfl
  | @array items _ ih =>
    rw [ofJson, toJson, toJsonItems_eq_map, ofJsonItems_eq_map, List.map_map]
    exact congrArg Json.array ((List.map_congr_left ih).trans (List.map_id items))
  | @object members _ ih =>
    have hmember : ∀ member ∈ members, (member.1, (ofJson member.2).toJson) = id member :=
      fun member hmember => Prod.ext rfl (ih member hmember)
    rw [ofJson, toJson, toJsonMembers_eq_map, ofJsonMembers_eq_map, List.map_map]
    exact congrArg Json.object ((List.map_congr_left hmember).trans (List.map_id members))

/-- What is read from a document that is no object is no object. -/
theorem object?_ofJson {json : Json} (h : json.object? = none) : (ofJson json).object? = none := by
  cases json with
  | object members => cases h
  | int n =>
    rw [ofJson]
    split <;> rfl
  | _ => rfl

/-- The document of a plain value is an object only where the value is. -/
theorem object?_toJson {v : Value} (h : v.IsPlain) (hscalar : v.object? = none) :
    v.toJson.object? = none := by
  cases h with
  | float finite =>
    rw [toJson, if_pos finite]
    rfl
  | object => cases hscalar
  | _ => rfl

end Value

end RelationalQuery
