import RelationalQuery.Compile.Plan

/-!
# Mutations

A record may connect the row that is written with rows of other models, or disconnect them, over the
join tables of relations many to many. Such a query becomes a mutation: the write of the row itself,
and one statement for each row that is connected or disconnected.

## Shape of the row's id

The statements on join tables hold the id of the written row. A created row has the id of its
record; if that has none, the database generates it and a null stands in its place until it is
known. An updated row has the id that the filter asks for.
-/

namespace RelationalQuery.Compile

/-- Rows to connect and disconnect over the join table of a relation. -/
structure JunctionWrite where
  field : String
  relation : Relation
  write : RelationWrite
  deriving Repr

/-- The relation many to many under a field of a record. -/
def connectable (c : Context) (model field : String) : Except CompileError Relation :=
  match c.schema.relation? model field with
  | none => .error (.connectsWithoutRelation field model)
  | some relation =>
    if relation.isManyToMany then do
      c.checkModel relation.target
      return relation
    else .error (.connectsWithoutJoin field model relation.foreignKey)

/-- Takes a record apart: the data of the row itself, and what is written to join tables. -/
def splitRecord (c : Context) (model : String) :
    DataRecord → Except CompileError (DataRecord × List JunctionWrite)
  | [] => .ok ([], [])
  | (field, .value value) :: rest => do
    let (row, junctions) ← splitRecord c model rest
    return ((field, .value value) :: row, junctions)
  | (field, .relation write) :: rest => do
    let relation ← connectable c model field
    let (row, junctions) ← splitRecord c model rest
    return (row, ⟨field, relation, write⟩ :: junctions)

/-! ## The id of the written row -/

/-- The id of the row that is written. -/
inductive RowId
  | known (value : Value)
  /-- The database generates it and returns it in a column. -/
  | generated (column : String)
  deriving Repr

namespace RowId

/-- The value that is bound for the id. -/
def bound : RowId → Value
  | known value => value
  | generated _ => .null

/-- The column in which the database returns the id. -/
def column? : RowId → Option String
  | known _ => none
  | generated column => some column

end RowId

/-- The name of the field that is the id of a model. -/
def idFieldOf (s : Schema) (model : String) : String :=
  match s.model? model >>= Model.idField? with
  | some field => field.name
  | none => defaultIdColumn

/-- A value that is not null. -/
def present : Option Value → Option Value
  | some .null => none
  | value => value

/-- The value that a criterion asks for, if it is a single one. -/
def soleValue : Criterion → Option Value
  | .literal value => some value
  | .comparison [(key, value)] => if key = Comparison.equals.key then some value else none
  | _ => none

/-- The id of the row that a query writes, whose data are the given record. -/
def rowId (c : Context) (q : Query) (record : DataRecord) : Except CompileError RowId :=
  let field := idFieldOf c.schema q.model
  match q.action with
  | .create =>
    match present (record.get? field >>= Datum.value?) with
    | some value => .ok (.known value)
    | none => .ok (.generated (c.schema.idColumn q.model))
  | _ =>
    match present (q.arguments.filter >>= fun filter => filter.get? field >>= soleValue) with
    | some value => .ok (.known value)
    | none => .error (.rowNotIdentified q.model field)

/-! ## Join tables -/

/-- The id of a related row: the value itself where it is the id, else that of the row which the
value names. -/
def targetReference (c : Context) (model : String) (target : Target) : Sql.Reference :=
  let idColumn := c.schema.idColumn model
  let column := c.schema.columnOf model target.field
  if column = idColumn then .value target.value
  else .lookup idColumn (c.schema.tableOf model) column target.value

/-- The writes to the join table of one relation, for the row with an id. -/
def junctionWrites (c : Context) (model : String) (id : Value) (junction : JunctionWrite) :
    Except CompileError (List Sql.Write) :=
  let relation := junction.relation
  let own := relation.ownJoinColumn model
  let other := relation.targetJoinColumn model
  let targets := junction.write.connect ++ junction.write.disconnect
  match relation.joinTable, targets with
  | _, [] => .ok []
  | none, _ => .error (.noJoinTable junction.field none)
  | some table, _ =>
    .ok (junction.write.connect.map (fun target =>
        .connect table own other id (targetReference c relation.target target)) ++
      junction.write.disconnect.map fun target =>
        .disconnect table own other id (targetReference c relation.target target))

/-! ## Mutations -/

/-- The plan of a mutation. -/
structure MutationPlan where
  main : Plan
  junctions : List Sql.Write := []
  generatedId : Option String := none
  deriving Repr

/-- The statements of a mutation. -/
def MutationPlan.mutation (d : Dialect) (p : MutationPlan) : Mutation :=
  { main := p.main.statement d
    relations := p.junctions.map (Sql.Write.statement d)
    generatedId := p.generatedId }

/-- Whether an action may connect rows. -/
def connects : Action → Bool
  | .create | .update => true
  | _ => false

/-- The plan of the row itself, whose data are what is left of the record. An update that sets
nothing becomes a read of the row. -/
def planRow (c : Context) (filtered : Bool) (q : Query) (row : DataRecord) :
    Except CompileError Plan :=
  if q.action = .update ∧ row.isEmpty then do
    return .read (← planFind c
      { model := q.model, action := .findMany, arguments := { filter := q.arguments.filter } })
  else plan c filtered { q with arguments := { q.arguments with data := some (.one row) } }

/-- The plan of a query that may connect rows. -/
def planMutation (c : Context) (filtered : Bool) (q : Query) : Except CompileError MutationPlan :=
  match q.arguments.data with
  | some (.one record) => do
    let (row, junctions) ← splitRecord c q.model record
    if junctions.isEmpty then return { main := ← plan c filtered q }
    if !connects q.action then throw (.cannotConnect q.action)
    let main ← planRow c filtered q row
    let id ← rowId c q record
    let writes ← junctions.mapM (junctionWrites c q.model id.bound)
    return { main, junctions := writes.flatten, generatedId := id.column? }
  | _ => do return { main := ← plan c filtered q }

end RelationalQuery.Compile
