import RelationalQuery.Proofs.Compile.Inserts
import RelationalQuery.Proofs.Compile.Selected
import RelationalQuery.Proofs.Value.Plain

/-!
# Data on the way to a database

The data of a record are read from a document, bound as arguments of an insert, and written as
documents again where they are sent. `carries_data` says that nothing happens to them on the
way: the statement binds one argument for each key, in order, and each argument is written as the very
document that was given.

## Shape of the proof

An object is data if it does not connect rows. At the top of a record it is kept as a document, and
everywhere else it is read as a value; both are written as they were (`toJson_ofJson`).
-/

namespace RelationalQuery

/-! ## Documents of data -/

/-- Whether a document connects or disconnects rows and does nothing else. -/
def Json.IsRelationWrite : Json → Prop
  | .object members =>
    members ≠ [] ∧ ∀ member ∈ members, member.1 = "connect" ∨ member.1 = "disconnect"
  | _ => False

/-- Whether a document is data: it connects no rows, and its numbers are 64-bit integers or finite. -/
structure Json.IsData (json : Json) : Prop where
  plain : ¬ json.IsRelationWrite
  numbers : json.HasPlainNumbers

/-- The arguments of the query that a document stands for. -/
def Json.arguments? (json : Json) : Option (Dict Json) :=
  ((json.object?.bind (Dict.get? · "query")).bind Json.object?).bind fun body =>
    (Dict.get? body "arguments").bind Json.object?

namespace DataRecord

variable {members : Dict Json} {json : Json} {path : String}

theorem isRelationWrite_iff :
    isRelationWrite members = true ↔ (Json.object members).IsRelationWrite := by
  simp only [isRelationWrite, Json.IsRelationWrite, Bool.and_eq_true, Bool.not_eq_true',
    List.isEmpty_eq_false_iff, List.all_eq_true, Bool.or_eq_true, beq_iff_eq]

instance : (json : Json) → Decidable json.IsRelationWrite
  | .object _ => decidable_of_iff _ isRelationWrite_iff
  | .null => isFalse id
  | .bool _ => isFalse id
  | .int _ => isFalse id
  | .float _ => isFalse id
  | .string _ => isFalse id
  | .array _ => isFalse id

/-- The value that is stored for data at the top of a record. -/
def storedValue : Json → Value
  | .object members => .json (.object members)
  | json => .ofJson json

/-- The record that holds data under its keys. -/
def ofData (members : Dict Json) : DataRecord :=
  members.map fun member => (member.1, .value (storedValue member.2))

theorem keys_ofData (members : Dict Json) : (ofData members).keys = members.keys := by
  rw [ofData, Dict.keys, List.map_map]
  rfl

/-- Data are written as they were given. -/
theorem toJson_storedValue (h : json.HasPlainNumbers) : (storedValue json).toJson = json := by
  cases json with
  | object members => rfl
  | _ => exact Value.toJson_ofJson h

theorem readDatum_of_plain (h : ¬ json.IsRelationWrite) :
    readDatum path json = .ok (.value (storedValue json)) := by
  cases json with
  | object members =>
    rw [← isRelationWrite_iff] at h
    rw [readDatum, if_neg h, storedValue]
  | _ => rfl

/-- A record that connects no rows is read as data. -/
theorem read_of_plain (h : ∀ member ∈ members, ¬ member.2.IsRelationWrite) :
    read path (.object members) = .ok (ofData members) := by
  rw [read, ofData]
  apply mapM_eq_ok_map
  intro member hmember
  rw [readDatum_of_plain (h member hmember)]
  rfl

theorem plainValues_ofData (model : String) (members : Dict Json) :
    Compile.plainValues model (ofData members) =
      .ok (members.map fun member => storedValue member.2) := by
  rw [Compile.plainValues, ofData, List.mapM_map]
  exact mapM_eq_ok_map fun _ _ => rfl

end DataRecord

/-! ## Queries with data -/

namespace Arguments

variable {members data : Dict Json} {arguments : Arguments}

/-- The data of a query are those of the one argument for them. -/
theorem data_of_ofJson (hkeys : members.keys.Nodup) (h : ofJson (.object members) = .ok arguments) :
    ∀ json, ("data", json) ∈ members → some <$> WriteData.ofJson json = .ok arguments.data := by
  refine (part_of_foldlM Arguments.data ?_ ?_ hkeys h).2
  · intro before json after hread
    obtain ⟨data, hdata, hafter⟩ := bind_eq_ok_iff.mp hread
    obtain rfl := Except.ok.inj hafter
    exact map_eq_ok_iff.mpr ⟨data, hdata, rfl⟩
  · intro before other json after hother hread
    unfold readEntry at hread
    split at hread
    case h_2 => exact absurd rfl hother
    case h_13 => cases hread
    all_goals
      obtain ⟨part, -, hafter⟩ := bind_eq_ok_iff.mp hread
      obtain rfl := Except.ok.inj hafter
      rfl

end Arguments

/-- The arguments of a query are read from those of its document. -/
theorem Query.arguments_of_ofJson {json : Json} {q : Query} {members : Dict Json}
    (hread : ofJson json = .ok q) (hgiven : json.arguments? = some members) :
    Arguments.ofJson (.object members) = .ok q.arguments := by
  cases json with
  | object parts =>
    obtain ⟨body, hbody, hmembers⟩ := Option.bind_eq_some_iff.mp hgiven
    obtain ⟨found, hquery, hfound⟩ := Option.bind_eq_some_iff.mp hbody
    obtain ⟨arguments, harguments, hobject⟩ := Option.bind_eq_some_iff.mp hmembers
    cases found with
    | object found =>
      obtain rfl := Option.some.inj hfound
      cases arguments with
      | object arguments =>
        obtain rfl := Option.some.inj hobject
        have hquery' : Dict.get? parts "query" = some (.object found) := hquery
        rw [ofJson, hquery'] at hread
        split at hread
        case h_2 => cases hread
        obtain ⟨model, -, hread⟩ := bind_eq_ok_iff.mp hread
        dsimp only at hread
        split at hread
        case h_2 => cases hread
        obtain ⟨action, -, hread⟩ := bind_eq_ok_iff.mp hread
        rw [readBody, harguments, bind_eq_ok_iff] at hread
        obtain ⟨arguments, harguments, hread⟩ := hread
        dsimp only at hread
        split at hread
        all_goals
          obtain ⟨selection, -, hread⟩ := bind_eq_ok_iff.mp hread
          obtain rfl := Except.ok.inj hread
          exact harguments
      | _ => cases hobject
    | _ => cases hfound
  | _ => cases hgiven

/-- The document that asks to create a row of a model with data. -/
def Json.creating (model : String) (data : Dict Json) : Json :=
  .object [("modelName", .string model), ("action", .string "create"),
    ("query", .object [("arguments", .object [("data", .object data)])])]

/-- Data that connect no rows are one record. -/
theorem WriteData.ofJson_of_plain {data : Dict Json}
    (h : ∀ member ∈ data, ¬ member.2.IsRelationWrite) :
    ofJson (.object data) = .ok (.one (DataRecord.ofData data)) := by
  change WriteData.one <$> DataRecord.read "data" (.object data) = _
  rw [DataRecord.read_of_plain h]
  rfl

/-- A document that gives nothing but data is read. -/
theorem Query.ofJson_creating {data : Dict Json}
    (h : ∀ member ∈ data, ¬ member.2.IsRelationWrite) (model : String) :
    ofJson (.creating model data) =
      .ok { model, action := .create
            arguments := { data := some (.one (DataRecord.ofData data)) } } := by
  have hdata : Arguments.ofJson (.object [("data", .object data)]) =
      .ok { data := some (.one (DataRecord.ofData data)) } := by
    rw [Arguments.ofJson, List.foldlM_cons, Arguments.readEntry, WriteData.ofJson_of_plain h]
    rfl
  change (do
    let arguments ← Arguments.ofJson (.object [("data", .object data)])
    return (⟨model, .create, arguments, none⟩ : Query)) = _
  rw [hdata]
  rfl

/-! ## Statements -/

namespace Compiler

open Compile

variable {k : Compiler} {model : String} {data : Dict Json}

/-- Whether a document is compiled to an insert into the table of a model that binds the values of
data, in order, each as an argument that is written like the value. -/
def Carries (k : Compiler) (model : String) (json : Json) (data : Dict Json) : Prop :=
  ∃ s, k.statementOfJson json = .ok s ∧ s.args.map Value.toJson = data.map Prod.snd ∧
    s.sql =
      Sql.rowText k.dialect "INSERT INTO" (k.schema.tableOf model)
          (data.keys.map (k.schema.columnOf model))
          (data.mapIdx fun i _ => k.dialect.placeholder (i + 1)) ++
        Sql.returningText k.dialect

/-- Data that are read as a record are carried. -/
theorem carries_of_data {json : Json} {q : Query} (hread : Query.ofJson json = .ok q)
    (haction : q.action = .create) (haccepted : k.context.checkModel q.model = .ok ())
    (hdata : q.arguments.data = some (.one (DataRecord.ofData data)))
    (hnumbers : ∀ member ∈ data, member.2.HasPlainNumbers) : k.Carries q.model json data := by
  have hcreating : q.creating (DataRecord.ofData data) = q := by
    rw [Query.creating, ← haction, ← hdata]
  have hlength : (data.map fun member => DataRecord.storedValue member.2).length =
      (data.keys.map (k.schema.columnOf q.model)).length := by
    rw [List.length_map, List.length_map, Dict.keys, List.length_map]
  have hstatement := statement_creating k q (DataRecord.ofData data)
  rw [hcreating, haccepted, ok_bind, DataRecord.plainValues_ofData,
    DataRecord.keys_ofData] at hstatement
  have hzip := Sql.statement_insert_zip k.dialect (k.schema.tableOf q.model) hlength
  have hcompiled : k.statementOfJson json = k.statement q := by rw [statementOfJson, hread]
  refine ⟨_, (hcompiled.trans hstatement).trans (congrArg Except.ok hzip), ?_, ?_⟩
  · rw [List.map_map]
    exact List.map_congr_left fun member hmember =>
      DataRecord.toJson_storedValue (hnumbers member hmember)
  · dsimp only
    rw [mapIdx_map]

/-- Data reach the driver unchanged. A document that creates a row with them is compiled, and the
statement binds one argument for each key, in order, which is written like the value under it; so is
every document that gives them as data, with whatever other arguments it is read. What is read from
any document with such numbers is written like the document. -/
theorem carries_data (haccepted : k.context.checkModel model = .ok ())
    (hdata : ∀ member ∈ data, member.2.IsData) :
    k.Carries model (.creating model data) data ∧
      (∀ json q members, Query.ofJson json = .ok q → q.model = model → q.action = .create →
        json.arguments? = some members → members.keys.Nodup →
        ("data", Json.object data) ∈ members → k.Carries model json data) ∧
      ∀ json : Json, json.HasPlainNumbers → (Value.ofJson json).toJson = json := by
  have hplain : ∀ member ∈ data, ¬ member.2.IsRelationWrite :=
    fun member hmember => (hdata member hmember).plain
  have hnumbers : ∀ member ∈ data, member.2.HasPlainNumbers :=
    fun member hmember => (hdata member hmember).numbers
  refine ⟨?_, ?_, fun json => Value.toJson_ofJson⟩
  · have hcarried := carries_of_data (k := k) (Query.ofJson_creating hplain model) rfl haccepted rfl
      hnumbers
    exact hcarried
  · rintro json q members hread rfl haction hgiven hkeys hmember
    have harguments := Query.arguments_of_ofJson hread hgiven
    have hrecord := Arguments.data_of_ofJson hkeys harguments _ hmember
    rw [WriteData.ofJson_of_plain hplain] at hrecord
    exact carries_of_data hread haction haccepted (Except.ok.inj hrecord).symm hnumbers

/-- A member with the least id that 64 bits hold and with documents that only seem to connect rows. -/
def oddMember : Dict Json :=
  [("id", .int (-9223372036854775808)), ("fullName", .null),
    ("notes", .object [("connect", .array [.int 1]), ("aside", .string "z")]),
    ("tags", .array [.object [("connect", .int 1)], .object []])]

/-- The odd member is written down as given. -/
theorem carries_data_oddMember :
    (club .mysql).Carries "Member" (.creating "Member" oddMember) oddMember := by
  have hone : Json.HasPlainNumbers (.int 1) := .int (by decide) (by decide)
  have hid : Json.IsData (.int (-9223372036854775808)) :=
    ⟨by decide, .int (by decide) (by decide)⟩
  have hname : Json.IsData .null := ⟨by decide, .null⟩
  have hnotes : Json.IsData (.object [("connect", .array [.int 1]), ("aside", .string "z")]) := by
    refine ⟨by decide, .object (List.forall_mem_cons.mpr ⟨?_, List.forall_mem_singleton.mpr .string⟩)⟩
    exact .array (List.forall_mem_singleton.mpr hone)
  have htags : Json.IsData (.array [.object [("connect", .int 1)], .object []]) := by
    refine ⟨by decide, .array (List.forall_mem_cons.mpr ⟨?_, List.forall_mem_singleton.mpr ?_⟩)⟩
    · exact .object (List.forall_mem_singleton.mpr hone)
    · exact .object (List.forall_mem_nil _)
  refine (carries_data rfl ?_).1
  rw [oddMember]
  simp only [List.forall_mem_cons]
  exact ⟨hid, hname, hnotes, htags, fun _ h => absurd h List.not_mem_nil⟩

end Compiler

end RelationalQuery
