import RelationalQuery.Json.Text
import RelationalQuery.Query.Reader.Filter
import RelationalQuery.Query.Arguments
import RelationalQuery.Text.Blank

/-!
# Reading arguments

The arguments of a query are written as an object, each under its own key. The keys are read in the
order in which they stand, and the first fault is reported.
-/

namespace RelationalQuery

/-- An invalid argument. -/
def invalid {α : Type} (argument : String) (fault : ArgumentFault) : Except QueryError α :=
  .error (.invalidArgument argument fault)

/-! ## Orderings -/

namespace SortKey

/-- The direction in which a field is sorted: a name, or an object that may also place the nulls. -/
def readDirection (field : String) : Json → Except QueryError SortKey
  | .string name => do return { field, direction := ← named name }
  | .object members => do
    let direction ← match Dict.get? members "sort" with
      | some (.string name) => named name
      | some found => bad found.text
      | none => .ok .ascending
    let nulls ← match Dict.get? members "nulls" with
      | none => .ok none
      | some .null => .ok none
      | some found => place found
    return { field, direction, nulls }
  | found => bad found.text
where
  /-- What is no direction. -/
  bad {α : Type} (found : String) : Except QueryError α :=
    invalid "orderBy" (.badDirection found field)
  /-- The direction with this name. -/
  named (name : String) : Except QueryError Direction :=
    match Direction.ofName? name with
    | some direction => .ok direction
    | none => bad name
  /-- The place of the nulls, named in any case. -/
  place (found : Json) : Except QueryError (Option NullsPlace) :=
    match found.string? with
    | some name =>
      if Text.sameLetters name "first" then .ok (some .first)
      else if Text.sameLetters name "last" then .ok (some .last)
      else invalid "orderBy" (.badNulls found.text field)
    | none => invalid "orderBy" (.badNulls found.text field)

mutual

/-- The sort keys of an ordering: those of an object, or of a list of orderings. -/
def ofJson : Json → Except QueryError (List SortKey)
  | .null => .ok []
  | .array items => ofJsonList items
  | .object members => members.mapM fun m => readDirection m.1 m.2
  | found => invalid "orderBy" (.expected "an object or a list" found.kind)

/-- The sort keys of a list of orderings. -/
def ofJsonList : List Json → Except QueryError (List SortKey)
  | [] => .ok []
  | item :: rest => do return (← ofJson item) ++ (← ofJsonList rest)

end

end SortKey

/-! ## Aggregates -/

namespace Aggregates

/-- The fields of an object whose flag is `true`. -/
def flagged (members : Dict Json) : List String :=
  members.filterMap fun m => match m.2 with
    | .bool true => some m.1
    | _ => none

/-- A list of field names, or an object of flags. -/
def readFields (key : String) : Json → Except QueryError (List String)
  | .array items => items.mapM fun item =>
    match item with
    | .string field => .ok field
    | found => bad found
  | .object members => .ok (flagged members)
  | found => bad found
where
  /-- What is no list of fields. -/
  bad {α : Type} (found : Json) : Except QueryError α :=
    invalid ("aggregation." ++ key) (.expected "field names" found.kind)

/-- What is counted: rows by a flag, fields by a list, or both by an object of flags. -/
def readCount : Json → Except QueryError CountSelection
  | .bool all => .ok { all }
  | .object members =>
    let names := flagged members
    .ok { all := names.contains "_all", fields := names.filter (· ≠ "_all") }
  | .array items => do return { fields := ← readFields "_count" (.array items) }
  | found =>
    invalid "aggregation._count" (.expected "a boolean, a list or an object" found.kind)

/-- The argument that filtered counts belong to. -/
def filteredArgument : String := "aggregation._countFiltered"

/-- A filtered count with its alias, as an item of a list. -/
def readFilteredItem : Json → Except QueryError (String × Filter)
  | .object members =>
    match Dict.get? members "alias" with
    | some (.string aliasName) =>
      return (aliasName, ← Filter.ofJson ((Dict.get? members "where").getD .null))
    | _ => invalid filteredArgument (.missing "alias")
  | _ => invalid filteredArgument .expectedAliasAndFilter

/-- The filtered counts: a list of them, or an object of filters under their aliases. -/
def readFiltered : Json → Except QueryError (List (String × Filter))
  | .array items => items.mapM readFilteredItem
  | .object members => members.mapM fun m => do return (m.1, ← Filter.ofJson m.2)
  | found => invalid filteredArgument (.expected "a list or an object" found.kind)

/-- Reads one kind of aggregate. -/
def readEntry (sofar : Aggregates) (key : String) (json : Json) : Except QueryError Aggregates :=
  match key with
  | "_count" => return { sofar with count := some (← readCount json) }
  | "_avg" => return { sofar with avg := ← readFields key json }
  | "_sum" => return { sofar with sum := ← readFields key json }
  | "_min" => return { sofar with min := ← readFields key json }
  | "_max" => return { sofar with max := ← readFields key json }
  | "_countFiltered" => return { sofar with filtered := ← readFiltered json }
  | _ => invalid "aggregation" (.unknownAggregate key)

/-- The aggregates that a document asks for. -/
def ofJson : Json → Except QueryError Aggregates
  | .object members => members.foldlM (fun sofar m => readEntry sofar m.1 m.2) {}
  | found => invalid "aggregation" (.expected "an object" found.kind)

end Aggregates

/-! ## Computed fields -/

namespace ComputedOp

/-- The operation with this name, or a fault in the computed fields. -/
def ofName (name : String) : Except QueryError ComputedOp :=
  match ofName? name with
  | some op => .ok op
  | none => invalid "computed" (.unknownOperation name)

end ComputedOp

namespace ComputedField

/-- What a column must equal: an object with the one key `fieldRef` names a field, everything else
is a value. -/
def readCorrelation (argument : String) : Json → Except QueryError Correlation
  | .object [("fieldRef", json)] =>
    match json with
    | .string field => .ok (.field field)
    | _ => invalid argument .referenceNotText
  | json => .ok (.value (.ofJson json))

/-- The computed field that a document describes under an alias. -/
def ofJson (aliasName : String) (json : Json) : Except QueryError ComputedField := do
  let argument := "computed." ++ aliasName
  let members : Dict Json ← match json with
    | .object members => .ok members
    | _ => invalid argument .expectedObject
  let op ← match members.get? "op" with
    | some (.string name) => ComputedOp.ofName name
    | _ => invalid argument (.missing "op")
  let table ← match members.get? "fromTable" with
    | some (.string table) => .ok table
    | _ => invalid argument (.missing "fromTable")
  let column ← match members.get? "column" with
    | some (.string column) => .ok (some column)
    | none => .ok none
    | some .null => .ok none
    | some found => invalid argument (.columnNotText found.kind)
  let correlations ← match members.get? "correlatingWhere" with
    | none => .ok []
    | some (.object entries) =>
      entries.mapM fun m => do return (m.1, ← readCorrelation argument m.2)
    | some _ => invalid argument .correlationNotObject
  let orderBy ← match members.get? "orderBy" with
    | none => .ok []
    | some ordering => SortKey.ofJson ordering
  if op = .first ∧ column = none then invalid argument .firstNeedsColumn
  else return { op, column, table, correlations, orderBy }

end ComputedField

/-! ## Records -/

namespace DataRecord

/-- Whether an object connects and disconnects rows and does nothing else. -/
def isRelationWrite (members : Dict Json) : Bool :=
  !members.isEmpty && members.all fun m => m.1 == "connect" || m.1 == "disconnect"

/-- A row named by one unique field. -/
def readTarget (path : String) : Json → Except QueryError Target
  | .object [(field, json)] => .ok ⟨field, .ofJson json⟩
  | _ => invalid path .badTarget

/-- The rows under a key of a relation: one, or a list of them. -/
def readTargets (path key : String) (members : Dict Json) : Except QueryError (List Target) :=
  match members.get? key with
  | none => .ok []
  | some (.array items) => items.mapM (readTarget (path ++ "." ++ key))
  | some json => (List.singleton json).mapM (readTarget (path ++ "." ++ key))

/-- What a record holds under a field. An object that does not connect rows is a document. -/
def readDatum (path : String) : Json → Except QueryError Datum
  | .object members =>
    if isRelationWrite members then do
      let connect ← readTargets path "connect" members
      let disconnect ← readTargets path "disconnect" members
      return .relation ⟨connect, disconnect⟩
    else .ok (.value (.json (.object members)))
  | json => .ok (.value (.ofJson json))

/-- The record that a document describes, as the value of an argument. -/
def read (argument : String) : Json → Except QueryError DataRecord
  | .object members =>
    members.mapM fun m => do return (m.1, ← readDatum (argument ++ "." ++ m.1) m.2)
  | found => invalid argument (.expected "an object" found.kind)

/-- The records of a list, from the given position on. -/
def readList (position : Nat) : List Json → Except QueryError (List DataRecord)
  | [] => .ok []
  | item :: rest => do
    let record ← read s!"data[{position}]" item
    return record :: (← readList (position + 1) rest)

end DataRecord

/-- The data to write: a record, or a list of records. -/
def WriteData.ofJson : Json → Except QueryError WriteData
  | .array items => .many <$> DataRecord.readList 0 items
  | json => .one <$> DataRecord.read "data" json

/-! ## All arguments -/

namespace Arguments

/-- A number of rows, which may be left open with `null`. -/
def readCount (key : String) : Json → Except QueryError (Option Int64)
  | .null => .ok none
  | .int n =>
    if 0 ≤ n ∧ n ≤ Int64.maxValue.toInt then .ok (some (Int64.ofInt n))
    else invalid key (.notACount (Json.int n).text)
  | .float x => invalid key (.notACount (Json.float x).text)
  | found => invalid key (.notACount found.kind)

/-- A list of field names; a single name may stand alone. -/
def readNames (key : String) : Json → Except QueryError (List String)
  | .string name => .ok [name]
  | .array items => items.mapM fun item =>
    match item with
    | .string name => .ok name
    | found => invalid key (.expected "field names" found.kind)
  | found => invalid key (.expected "a list of field names" found.kind)

/-- The computed fields under their aliases. -/
def readComputed : Json → Except QueryError (Dict ComputedField)
  | .object members => members.mapM fun m => do return (m.1, ← ComputedField.ofJson m.1 m.2)
  | _ => invalid "computed" .expectedObject

/-- Reads one argument. -/
def readEntry (sofar : Arguments) (key : String) (json : Json) : Except QueryError Arguments :=
  match key with
  | "where" => return { sofar with filter := some (← Filter.ofJson json) }
  | "data" => return { sofar with data := some (← WriteData.ofJson json) }
  | "orderBy" => return { sofar with orderBy := ← SortKey.ofJson json }
  | "take" => return { sofar with take := ← readCount key json }
  | "skip" => return { sofar with skip := ← readCount key json }
  | "selectFields" => return { sofar with selectFields := ← readNames key json }
  | "groupByFields" => return { sofar with groupBy := ← readNames key json }
  | "by" => return { sofar with groupBy := ← readNames key json }
  | "aggregation" => return { sofar with aggregates := some (← Aggregates.ofJson json) }
  | "computed" => return { sofar with computed := ← readComputed json }
  | "create" => return { sofar with create := some (← DataRecord.read key json) }
  | "update" => return { sofar with update := some (← DataRecord.read key json) }
  | _ => invalid key .unknownArgument

/-- The arguments that a document holds. -/
def ofJson : Json → Except QueryError Arguments
  | .null => .ok {}
  | .object members => members.foldlM (fun sofar m => readEntry sofar m.1 m.2) {}
  | found => invalid "arguments" (.expected "an object" found.kind)

end Arguments

end RelationalQuery
