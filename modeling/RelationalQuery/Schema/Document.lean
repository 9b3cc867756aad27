import RelationalQuery.Json.Shape
import RelationalQuery.Schema.Basic

/-!
# Schemas as documents

A schema is handed over as a list of models. The keys of a model's fields and relations are the
names under which it knows them.
-/

namespace RelationalQuery

open Json (Mismatch Shape)

/-- The type of a field: a name, or an object that names an enumeration. -/
def FieldType.shape : Shape FieldType
  | .string name => pick name none
  | .object [(name, content)] => pick name (some content)
  | .object _ => .error .severalVariants
  | found => .error (.wrongType found "string or map")
where
  /-- The type under a variant name with its content, if it has one. -/
  pick (name : String) (content : Option Json) : Except Mismatch FieldType :=
    if name = "Enum" then
      match content with
      | some found => FieldType.enumeration <$> Shape.text found
      | none => .error .bareVariant
    else
      match Dict.get? FieldType.named name, content with
      | some type, none => .ok type
      | some type, some .null => .ok type
      | some _, some found => .error (.wrongType found "unit")
      | none, _ => .error (.unknownVariant name (FieldType.named.map Prod.fst ++ ["Enum"]))

/-- The document of a field's type. -/
def FieldType.toJson : FieldType → Json
  | .enumeration name => .object [("Enum", .string name)]
  | type => .string type.name

/-- A field. -/
def Field.shape (json : Json) : Except Mismatch Field := do
  let entries ← Shape.record "FieldInfo"
    [Shape.required "name" Shape.text, Shape.required "columnName" Shape.text,
      Shape.required "type" FieldType.shape, Shape.defaulted "isId" Shape.flag] json
  return {
    name := ← Shape.get entries "name" Shape.text none
    column := ← Shape.get entries "columnName" Shape.text none
    type := ← Shape.get entries "type" FieldType.shape none
    isId := ← Shape.get entries "isId" Shape.flag (some false) }

/-- The document of a field. -/
def Field.toJson (f : Field) : Json :=
  .object [("name", .string f.name), ("columnName", .string f.column), ("type", f.type.toJson),
    ("isId", .bool f.isId)]

/-- A relation. -/
def Relation.shape (json : Json) : Except Mismatch Relation := do
  let cardinality := Shape.oneOf Cardinality.named
  let text := Shape.optional Shape.text
  let flag := Shape.optional Shape.flag
  let entries ← Shape.record "RelationInfo"
    [Shape.required "name" Shape.text, Shape.required "type" cardinality,
      Shape.required "targetModel" Shape.text, Shape.defaulted "foreignKey" Shape.text,
      Shape.defaulted "references" Shape.text, Shape.defaulted "joinTable" text,
      Shape.defaulted "joinColumn" text, Shape.defaulted "inverseJoinColumn" text,
      Shape.defaulted "holdsForeignKey" flag] json
  return {
    name := ← Shape.get entries "name" Shape.text none
    cardinality := ← Shape.get entries "type" cardinality none
    target := ← Shape.get entries "targetModel" Shape.text none
    foreignKey := ← Shape.get entries "foreignKey" Shape.text (some "")
    references := ← Shape.get entries "references" Shape.text (some defaultIdColumn)
    joinTable := ← Shape.get entries "joinTable" text (some none)
    joinColumn := ← Shape.get entries "joinColumn" text (some none)
    inverseJoinColumn := ← Shape.get entries "inverseJoinColumn" text (some none)
    holdsKey := ← Shape.get entries "holdsForeignKey" flag (some none) }

/-- The document of a relation. What it leaves open is left out. -/
def Relation.toJson (r : Relation) : Json :=
  let given (key : String) (value : Option Json) : Dict Json :=
    match value with
    | some json => [(key, json)]
    | none => []
  .object ([("name", .string r.name), ("type", .string r.cardinality.name),
    ("targetModel", .string r.target), ("foreignKey", .string r.foreignKey),
    ("references", .string r.references)] ++
    given "joinTable" (r.joinTable.map .string) ++ given "joinColumn" (r.joinColumn.map .string) ++
    given "inverseJoinColumn" (r.inverseJoinColumn.map .string) ++
    given "holdsForeignKey" (r.holdsKey.map .bool))

/-- A model. -/
def Model.shape (json : Json) : Except Mismatch Model := do
  let fields := Shape.dictionary Field.shape
  let relations := Shape.dictionary Relation.shape
  let entries ← Shape.record "ModelSchema"
    [Shape.required "name" Shape.text, Shape.required "tableName" Shape.text,
      Shape.defaulted "fields" fields, Shape.defaulted "relations" relations] json
  return {
    name := ← Shape.get entries "name" Shape.text none
    table := ← Shape.get entries "tableName" Shape.text none
    fields := ← Shape.get entries "fields" fields (some [])
    relations := ← Shape.get entries "relations" relations (some []) }

/-- The document of a model. -/
def Model.toJson (m : Model) : Json :=
  .object [("name", .string m.name), ("tableName", .string m.table),
    ("fields", .object (m.fields.map fun f => (f.1, f.2.toJson))),
    ("relations", .object (m.relations.map fun r => (r.1, r.2.toJson)))]

/-- A schema. -/
def Schema.shape (json : Json) : Except Mismatch Schema := ofModels <$> Shape.list Model.shape json

end RelationalQuery
