import RelationalQuery.Query.Basic

/-!
# Errors of compilation

Why a query cannot be compiled. All causes but unsupported requests are faults of the query itself,
which whoever wrote it can mend.
-/

namespace RelationalQuery

/-- Why a query cannot be compiled. -/
inductive CompileError
  /-- The query could not be read. -/
  | malformed (error : QueryError)
  /-- A combination of filters stands under a field. -/
  | logicalUnderField (field model : String)
  | relationWithoutQuantifier (field model : String)
  | quantifierWithoutRelation (field model : String)
  | connectiveWithoutFilters (connective : Connective)
  | unknownOperators (field : String) (operators : List String)
  | emptyNot (field : String)
  | searchWithoutText (op : Comparison) (field found : String)
  /-- A many-to-many relation lacks its join table. -/
  | noJoinTable (relation : String) (model : Option String)
  | unregisteredModel (model suggestion : String) (registered : List String)
  | computedWithoutColumn (aliasName : String) (op : ComputedOp)
  | groupByWithoutFields
  | noAggregates
  /-- Nothing but filtered counts is asked for, in a dialect without them. -/
  | onlyFilteredCounts
  | severalRecordsToCreate
  | severalRecords (action : Action)
  | noData (action : Action)
  | nothingToSet (action : Action)
  | noRecords
  | extraField (position : Nat) (field : String)
  | noCreate
  | noConflictColumns
  /-- Rows are connected by a write that is compiled by itself. -/
  | connectsRows (field model : String)
  | cannotConnect (action : Action)
  | connectsWithoutRelation (field model : String)
  | connectsWithoutJoin (field model foreignKey : String)
  | rowNotIdentified (model idField : String)
  deriving DecidableEq, Repr

namespace CompileError

/-- The kinds of errors that a caller tells apart. -/
inductive Kind
  | argument
  | unknownOperators
  | strictValidation
  | unsupported
  deriving DecidableEq, Repr

/-- The kind of an error. -/
def kind : CompileError → Kind
  | malformed (.unknownAction _) => .unsupported
  | onlyFilteredCounts => .unsupported
  | unknownOperators _ _ => .unknownOperators
  | unregisteredModel _ _ _ => .strictValidation
  | _ => .argument

/-- Whether whoever wrote the query can mend the error. -/
def isArgument (e : CompileError) : Bool := e.kind ≠ .unsupported

/-- What is said of the registered models. -/
def registeredHint (registered : List String) : String :=
  if registered.isEmpty then "" else " Registered models: " ++ ", ".intercalate registered ++ "."

/-- The text of an error. -/
def message : CompileError → String
  | malformed error => error.message
  | logicalUnderField field model =>
    s!"Field `{field}` of model `{model}` holds a logical filter; AND, OR and NOT are only " ++
      "allowed as keys of their own."
  | relationWithoutQuantifier field model =>
    s!"Field `{field}` of model `{model}` is a relation and must be filtered with a quantifier: " ++
      "use some(...), every(...) or none_match(...)."
  | quantifierWithoutRelation field model =>
    s!"Field `{field}` is not a registered relation of model `{model}`; some, every and none " ++
      "only apply to relation fields."
  | connectiveWithoutFilters connective => s!"`{connective.key}` expects a list of filters."
  | unknownOperators field operators =>
    s!"Unknown filter operator(s) on field `{field}`: " ++ ", ".intercalate operators ++
      ". Supported operators are: " ++ ", ".intercalate (Comparison.keyed.map Prod.fst) ++ "."
  | emptyNot field =>
    s!"`not` on field `{field}` expects a value or at least one operator, found an empty object."
  | searchWithoutText op field found =>
    s!"`{op.key}` on field `{field}` expects a string, found {found}."
  | noJoinTable relation (some model) =>
    s!"Many-to-many relation `{relation}` of model `{model}` has no join table."
  | noJoinTable relation none => s!"Many-to-many relation `{relation}` has no join table."
  | unregisteredModel model suggestion registered =>
    s!"Model `{model}` is not registered. Did you mean the table `{suggestion}`?" ++
      registeredHint registered
  | computedWithoutColumn aliasName op =>
    s!"Computed field `{aliasName}` uses `{op.name}` and needs a column."
  | groupByWithoutFields => "groupBy requires at least one field in `groupByFields`."
  | noAggregates =>
    "aggregate requires at least one of `_count`, `_avg`, `_sum`, `_min`, `_max` or " ++
      "`_countFiltered`."
  | onlyFilteredCounts =>
    "Filtered counts are the only requested aggregates and this dialect cannot compute them."
  | severalRecordsToCreate =>
    "create expects a single record in `data`, use createMany to insert a list."
  | severalRecords action => s!"{action.name} expects a single record in `data`."
  | noData action => s!"{action.name} requires `data`."
  | nothingToSet action => s!"{action.name} requires at least one field to set in `data`."
  | noRecords => "createMany requires at least one record in `data`."
  | extraField position field =>
    s!"Record {position} of createMany sets `{field}`, which the first record does not. Every " ++
      "record must use the columns of the first one."
  | noCreate => "upsert requires `create`."
  | noConflictColumns =>
    "upsert requires `where` naming the unique columns to resolve conflicts on."
  | connectsRows field model =>
    s!"Field `{field}` of model `{model}` connects or disconnects related records, compile the " ++
      "query with compile_with_relations."
  | cannotConnect action =>
    s!"{action.name} cannot connect or disconnect related records, only create and update can."
  | connectsWithoutRelation field model =>
    s!"Field `{field}` is not a registered relation of model `{model}` and cannot connect or " ++
      "disconnect records."
  | connectsWithoutJoin field model foreignKey =>
    s!"Relation `{field}` of model `{model}` is not many-to-many, set the foreign key " ++
      s!"`{foreignKey}` directly instead of using connect or disconnect."
  | rowNotIdentified model idField =>
    s!"Connecting or disconnecting records of `{model}` requires `{idField}` in `where` to " ++
      "identify the row."

end CompileError

end RelationalQuery
