import RelationalQuery.Dict

/-!
# Models

A `Model` says in which table the rows of a kind are stored, in which columns their fields are, and
how they are related to rows of other models. Names that a model does not know are left as they are,
so that a query may also name columns directly.
-/

namespace RelationalQuery

/-- The type of a field. -/
inductive FieldType
  | string
  | int
  | bigInt
  | float
  | decimal
  | boolean
  | dateTime
  | json
  | bytes
  | uuid
  /-- An enumeration, by name. -/
  | enumeration (name : String)
  deriving DecidableEq, Repr

/-- A field and the column that stores it. -/
structure Field where
  name : String
  column : String
  type : FieldType
  isId : Bool := false
  deriving DecidableEq, Repr

/-- How many rows stand on the two sides of a relation, seen from the model that declares it. -/
inductive Cardinality
  | oneToOne
  | oneToMany
  | manyToOne
  | manyToMany
  deriving DecidableEq, Repr

/-- The name of the id column where a model declares none. -/
def defaultIdColumn : String := "id"

/-- A relation, seen from the model that declares it.

Rows are tied by a foreign key, which points at the column `references` of the other side, or, many
to many, by the rows of a join table. `holdsKey` settles on which side of a one-to-one relation the
key is when the fields cannot tell. -/
structure Relation where
  name : String
  cardinality : Cardinality
  target : String
  foreignKey : String := ""
  references : String := defaultIdColumn
  joinTable : Option String := none
  joinColumn : Option String := none
  inverseJoinColumn : Option String := none
  holdsKey : Option Bool := none
  deriving DecidableEq, Repr

/-- A model: its table, its fields and its relations, each under its name. -/
structure Model where
  name : String
  table : String
  fields : Dict Field := []
  relations : Dict Relation := []
  deriving DecidableEq, Repr

namespace FieldType

/-- The types that have a name of their own. -/
def named : List (String × FieldType) :=
  [("String", string), ("Int", int), ("BigInt", bigInt), ("Float", float), ("Decimal", decimal),
    ("Boolean", boolean), ("DateTime", dateTime), ("Json", json), ("Bytes", bytes), ("UUID", uuid)]

/-- The name of a type. -/
def name : FieldType → String
  | string => "String"
  | int => "Int"
  | bigInt => "BigInt"
  | float => "Float"
  | decimal => "Decimal"
  | boolean => "Boolean"
  | dateTime => "DateTime"
  | json => "Json"
  | bytes => "Bytes"
  | uuid => "UUID"
  | enumeration name => s!"Enum({name})"

/-- The type with this name. Universally unique identifiers have a second spelling, enumerations
none. -/
def ofName? (name : String) : Option FieldType :=
  if name = "Uuid" then some uuid else Dict.get? named name

/-- What is said of a name that is no type. -/
def unknownMessage (name : String) : String := s!"Unknown scalar type `{name}`"

end FieldType

namespace Cardinality

/-- The names of the cardinalities, in order. -/
def named : List (String × Cardinality) :=
  [("oneToOne", oneToOne), ("oneToMany", oneToMany), ("manyToOne", manyToOne),
    ("manyToMany", manyToMany)]

/-- The name of a cardinality. -/
def name : Cardinality → String
  | oneToOne => "oneToOne"
  | oneToMany => "oneToMany"
  | manyToOne => "manyToOne"
  | manyToMany => "manyToMany"

/-- Whether a row may be related to several rows of the target. -/
def isList : Cardinality → Bool
  | oneToMany => true
  | manyToMany => true
  | _ => false

end Cardinality

namespace Relation

/-- The column of the join table that points at the model whose name sorts first. -/
def firstJoinColumn : String := "A"

/-- The column of the join table that points at the other model. -/
def secondJoinColumn : String := "B"

/-- Whether rows are tied by a join table. -/
def isManyToMany (r : Relation) : Bool := r.cardinality == .manyToMany

/-- The column of the join table that points at `model`, which declares the relation. Without a name
of its own it goes by the order of the two models' names, so that both sides agree. -/
def ownJoinColumn (r : Relation) (model : String) : String :=
  r.joinColumn.getD (if model ≤ r.target then firstJoinColumn else secondJoinColumn)

/-- The column of the join table that points at the target. -/
def targetJoinColumn (r : Relation) (model : String) : String :=
  r.inverseJoinColumn.getD (if model ≤ r.target then secondJoinColumn else firstJoinColumn)

end Relation

namespace Model

/-- Adds a field under its name. -/
def withField (m : Model) (f : Field) : Model := { m with fields := m.fields.put f.name f }

/-- Adds a relation under its name. -/
def withRelation (m : Model) (r : Relation) : Model :=
  { m with relations := m.relations.put r.name r }

/-- The first field that is an id. -/
def idField? (m : Model) : Option Field := (m.fields.map Prod.snd).find? (·.isId)

/-- The column of the id. -/
def idColumn (m : Model) : String :=
  match m.idField? with
  | some f => f.column
  | none => defaultIdColumn

/-- The column of a field; a name that is no field stands for itself. -/
def columnOf (m : Model) (field : String) : String :=
  match m.fields.get? field with
  | some f => f.column
  | none => field

/-- Whether a column or a field has this name. -/
def hasColumn (m : Model) (name : String) : Bool :=
  m.fields.any fun f => f.2.column == name || f.2.name == name

/-- All columns, in the order of the fields. -/
def columns (m : Model) : List String := m.fields.map (·.2.column)

end Model

end RelationalQuery
