import RelationalQuery.Adapter.Flavour

/-!
# Connections

What an adapter says about its connection.
-/

namespace RelationalQuery

/-- The schema that a connection uses, how many values a statement may bind, and whether the
database joins relations itself. -/
structure ConnectionInfo where
  schemaName : Option String := none
  maxBindValues : Option UInt32 := none
  supportsRelationJoins : Bool := false
  deriving DecidableEq, Repr

namespace ConnectionInfo

/-- The schema that the connection uses. -/
def schemaNameOrDefault (info : ConnectionInfo) (flavour : Flavour) : String :=
  info.schemaName.getD flavour.defaultSchema

/-- The document of a connection. -/
def toJson (info : ConnectionInfo) : Json :=
  .object [("schemaName", Json.ofOption .string info.schemaName),
    ("maxBindValues", Json.ofOption (fun n => .int n.toNat) info.maxBindValues),
    ("supportsRelationJoins", .bool info.supportsRelationJoins)]

/-- A name, or `null` for none. -/
def name? : Json → Option (Option String)
  | .null => some none
  | .string name => some (some name)
  | _ => none

/-- A number of values that fits into 32 bits, or `null` for none. -/
def bound? : Json → Option (Option UInt32)
  | .null => some none
  | .int n => if 0 ≤ n ∧ n < UInt32.size then some (some (UInt32.ofNat n.toNat)) else none
  | _ => none

/-- The connection that documents of its three parts describe. -/
def ofParts? (name bound joins : Json) : Option ConnectionInfo := do
  return ⟨← name? name, ← bound? bound, ← joins.bool?⟩

/-- The connection of a document: an object whose members may be left out, or the list of its parts
in order, of which only the last may be left out. -/
def ofJson? : Json → Option ConnectionInfo
  | .object members =>
    let part (name : String) (absent : Json) : Json := (Dict.get? members name).getD absent
    ofParts? (part "schemaName" .null) (part "maxBindValues" .null)
      (part "supportsRelationJoins" (.bool false))
  | .array [name, bound] => ofParts? name bound (.bool false)
  | .array [name, bound, joins] => ofParts? name bound joins
  | _ => none

end ConnectionInfo

end RelationalQuery
