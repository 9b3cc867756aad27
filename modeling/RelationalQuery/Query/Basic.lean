import RelationalQuery.Query.Arguments
import RelationalQuery.Query.Error

/-!
# Queries

A `Query` is an action on a model, with arguments and a selection of what to return. `Query.Draft`
collects the parts one after the other; `Draft.build` fails where the model or the action is
missing.
-/

namespace RelationalQuery

/-- What a query does. -/
inductive Action
  | findUnique
  | findUniqueOrThrow
  | findFirst
  | findFirstOrThrow
  | findMany
  | create
  | createMany
  | update
  | updateMany
  | upsert
  | delete
  | deleteMany
  | aggregate
  | groupBy
  | count
  deriving DecidableEq, Repr

namespace Action

/-- The actions and their names. -/
def named : List (String × Action) :=
  [("findUnique", findUnique), ("findUniqueOrThrow", findUniqueOrThrow), ("findFirst", findFirst),
    ("findFirstOrThrow", findFirstOrThrow), ("findMany", findMany), ("create", create),
    ("createMany", createMany), ("update", update), ("updateMany", updateMany), ("upsert", upsert),
    ("delete", delete), ("deleteMany", deleteMany), ("aggregate", aggregate), ("groupBy", groupBy),
    ("count", count)]

/-- The name of an action. -/
def name : Action → String
  | findUnique => "findUnique"
  | findUniqueOrThrow => "findUniqueOrThrow"
  | findFirst => "findFirst"
  | findFirstOrThrow => "findFirstOrThrow"
  | findMany => "findMany"
  | create => "create"
  | createMany => "createMany"
  | update => "update"
  | updateMany => "updateMany"
  | upsert => "upsert"
  | delete => "delete"
  | deleteMany => "deleteMany"
  | aggregate => "aggregate"
  | groupBy => "groupBy"
  | count => "count"

/-- Second names, of writes that write one row. -/
def synonyms : List (String × Action) :=
  [("createOne", create), ("updateOne", update), ("upsertOne", upsert), ("deleteOne", delete)]

/-- The action with this name. -/
def ofName (name : String) : Except QueryError Action :=
  match Dict.get? (synonyms ++ named) name with
  | some action => .ok action
  | none => .error (.unknownAction name)

/-- Whether the action reads rows. -/
def isRead : Action → Bool
  | findUnique | findUniqueOrThrow | findFirst | findFirstOrThrow | findMany => true
  | _ => false

/-- Whether the action writes. -/
def isWrite : Action → Bool
  | create | createMany | update | updateMany | upsert | delete | deleteMany => true
  | _ => false

/-- Whether the action fails instead of returning nothing. -/
def isOrThrow : Action → Bool
  | findUniqueOrThrow | findFirstOrThrow => true
  | _ => false

/-- Whether the action reads at most one row. -/
def isSingleRead : Action → Bool
  | findUnique | findUniqueOrThrow | findFirst | findFirstOrThrow => true
  | _ => false

end Action

mutual

/-- Which fields to return. -/
structure Selection where
  scalars : Bool := true
  composites : Bool := true
  fields : List (String × SelectedField) := []

/-- How a field is selected. -/
inductive SelectedField
  /-- By a flag. On a relation `true` asks for the related rows. -/
  | flag (on : Bool)
  /-- As related rows, with arguments and a selection of their own. -/
  | nested (arguments : Arguments) (selection : Selection)

end

namespace Selection

/-- Nothing but the fields that are named. -/
def explicit : Selection := ⟨false, false, []⟩

/-- The fields that are selected by a flag. -/
def flagged (s : Selection) : List String :=
  s.fields.filterMap fun f => match f.2 with
    | .flag true => some f.1
    | _ => none

/-- The fields that are selected with a selection of their own. -/
def nestedNames (s : Selection) : List String :=
  s.fields.filterMap fun f => match f.2 with
    | .nested _ _ => some f.1
    | _ => none

end Selection

/-- One query against one model. -/
structure Query where
  model : String
  action : Action
  arguments : Arguments := {}
  selection : Option Selection := none

/-- The parts of a query that are known so far. -/
structure Query.Draft where
  model : Option String := none
  action : Option Action := none
  arguments : Arguments := {}
  selection : Option Selection := none

/-- The query of a draft, which needs a model and an action. -/
def Query.Draft.build (d : Query.Draft) : Except QueryError Query :=
  match d.model, d.action with
  | none, _ => .error (.missingField "model")
  | some _, none => .error (.missingField "action")
  | some model, some action => .ok ⟨model, action, d.arguments, d.selection⟩

end RelationalQuery
