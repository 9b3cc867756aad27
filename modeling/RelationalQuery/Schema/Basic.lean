import RelationalQuery.Schema.Model
import RelationalQuery.Text.Lowercase

/-!
# Schemas

A `Schema` is the catalogue of registered models. Every lookup has an answer: a model that is not
registered is stored in the table of its own name, in columns of the fields' own names, with the
usual id column. Queries therefore work without any schema.

## Shape of a relation's tie

`Schema.link` says by which columns rows of a model are tied to rows of a relation's target. All
that is compiled from a relation, be it a filter, a join or a write, goes by this one description.
-/

namespace RelationalQuery

/-- The registered models, each under its name. -/
structure Schema where
  models : Dict Model := []
  deriving DecidableEq, Repr

/-- How rows of a model are tied to rows of a relation's target. -/
inductive Link
  /-- A column of the model equals a column of the target. -/
  | direct (own target : String)
  /-- A row of a join table holds both ids: `ownId` equals `ownColumn` there, and `targetId` equals
  `targetColumn`. A relation may lack its table. -/
  | junction (table : Option String) (ownId ownColumn targetColumn targetId : String)
  deriving DecidableEq, Repr

namespace Schema

/-- Registers a model, in place of one of the same name. -/
def register (s : Schema) (m : Model) : Schema := ⟨s.models.put m.name m⟩

/-- The schema of a list of models. -/
def ofModels (models : List Model) : Schema := models.foldl register {}

/-- The model of this name. -/
def model? (s : Schema) (name : String) : Option Model := s.models.get? name

/-- Whether a model of this name is registered. -/
def isRegistered (s : Schema) (name : String) : Bool := (s.model? name).isSome

/-- The names of the models, in the order in which they were registered. -/
def modelNames (s : Schema) : List String := s.models.keys

/-- The model that is stored in a table, else the model of that name. -/
def findByTable? (s : Schema) (table : String) : Option Model :=
  ((s.models.map Prod.snd).find? (·.table == table)) <|> s.model? table

/-- The table of a model. -/
def tableOf (s : Schema) (model : String) : String :=
  match s.model? model with
  | some m => m.table
  | none => model

/-- The column of a field. -/
def columnOf (s : Schema) (model field : String) : String :=
  match s.model? model with
  | some m => m.columnOf field
  | none => field

/-- The relation of a model under this name. -/
def relation? (s : Schema) (model name : String) : Option Relation :=
  s.model? model >>= fun m => m.relations.get? name

/-- The id column of a model. -/
def idColumn (s : Schema) (model : String) : String :=
  match s.model? model with
  | some m => m.idColumn
  | none => defaultIdColumn

/-- Whether a model has a column for the relation's key. -/
def hasKey (s : Schema) (relation : Relation) (model : String) : Bool :=
  (s.model? model).any (·.hasColumn relation.foreignKey)

/-- Whether a key goes by the name of a model, as `userId` goes by `User`. -/
def namedAfter (key model : String) : Bool :=
  (Text.lowercase model).toList.isPrefixOf (Text.lowercase key).toList

/-- Whether rows of `model` hold the key of a one-to-one relation that does not say so itself: the
side with a column for it does, else the side whose key goes by the name of the other, else the
model whose name sorts last. Exactly one of two different models holds it. -/
def holdsOneToOneKey (s : Schema) (model : String) (relation : Relation) : Bool :=
  let own := s.hasKey relation model
  let other := s.hasKey relation relation.target
  if model = relation.target then own
  else if own ≠ other then own
  else
    let pointsAway := namedAfter relation.foreignKey relation.target
    let pointsHere := namedAfter relation.foreignKey model
    if pointsAway ≠ pointsHere then pointsAway
    else relation.target < model

/-- Whether rows of `model` hold the key of its relation. -/
def holdsForeignKey (s : Schema) (model : String) (relation : Relation) : Bool :=
  match relation.cardinality with
  | .manyToOne => true
  | .oneToMany => false
  | .manyToMany => false
  | .oneToOne => relation.holdsKey.getD (s.holdsOneToOneKey model relation)

/-- The columns by which rows of `model` are tied to the rows of a relation's target. -/
def link (s : Schema) (model : String) (relation : Relation) : Link :=
  if relation.isManyToMany then
    .junction relation.joinTable (s.idColumn model) (relation.ownJoinColumn model)
      (relation.targetJoinColumn model) (s.idColumn relation.target)
  else if s.holdsForeignKey model relation then
    .direct (s.columnOf model relation.foreignKey) (s.columnOf relation.target relation.references)
  else
    .direct (s.columnOf model relation.references) (s.columnOf relation.target relation.foreignKey)

end Schema

end RelationalQuery
