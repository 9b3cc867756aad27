import RelationalQuery.Compile.Include

/-!
# Reads

How the reading actions are compiled: finding rows with everything that is joined to them or
computed for them, counting rows, and aggregating them, in groups or together.

## Shape of a page

A limit cuts off rows of the queried table. Where rows are multiplied by joining lists, or vanish in
an aggregate, the page is therefore taken first, as a subquery, and the rest is done with its rows.
-/

namespace RelationalQuery.Compile

open Sql (Base Clause Column Item Page Select)

/-- A compiled read: its tree, and what is needed to read the answer. -/
structure Read where
  select : Select
  computed : List String := []
  inclusions : List Inclusion := []
  deriving Repr

/-- The statement of a read. -/
def Read.statement (d : Dialect) (r : Read) : Statement :=
  { Statement.ofFragment d true (r.select.fragment d) with
    computed := r.computed, inclusions := r.inclusions }

/-- The name of the page that counts and aggregates are taken over. -/
def pageAlias : String := "sub"

/-- Sort keys as columns. -/
def orderKeys (column : String → Column) (keys : List SortKey) : List Sql.OrderKey :=
  keys.map fun key => ⟨column key.field, key.direction, key.nulls⟩

/-! ## Pages -/

/-- The page of a model's table that arguments ask for. -/
def planPage (c : Context) (model : String) (arguments : Arguments) (take : Option Int64) :
    Except CompileError Page := do
  let row := Occurrence.plain c model
  let clause ← optionalClause c row [row.name] arguments.filter
  return { table := row.table, clause, orderBy := orderKeys (row.field c) arguments.orderBy, take,
           skip := arguments.skip }

/-- Whether arguments cut off rows. -/
def isPaginated (arguments : Arguments) : Bool := arguments.take.isSome || arguments.skip.isSome

/-- Where counts and aggregates take their rows from, and the conditions on them: a page if rows are
cut off, else the table. -/
def planSource (c : Context) (q : Query) : Except CompileError (Base × Clause) :=
  if isPaginated q.arguments then do
    return (.page (← planPage c q.model q.arguments q.arguments.take) pageAlias, [])
  else do
    let row := Occurrence.plain c q.model
    return (.table row.table, ← optionalClause c row [row.name] q.arguments.filter)

/-! ## Computed fields -/

/-- The tree of a computed field of the rows of `base`. -/
def planComputed (c : Context) (base : Occurrence) (aliasName : String) (field : ComputedField) :
    Except CompileError Item := do
  c.checkModel field.table
  let model := c.schema.findByTable? field.table
  let column (name : String) : Column :=
    ⟨none, match model with
      | some m => m.columnOf name
      | none => name⟩
  let projection ← match field.op, field.column with
    | .count, none => .ok Sql.Projection.rows
    | op, some name =>
      .ok (match op.function? with
        | some function => .apply function (column name)
        | none => .column (column name))
    | op, none => .error (.computedWithoutColumn aliasName op)
  let conditions := field.correlations.map fun entry => match entry.2 with
    | .field name =>
      Sql.Match.outer (column entry.1) (base.outer (c.schema.columnOf base.model name))
    | .value .null => .null (column entry.1)
    | .value value => .value (column entry.1) value
  return .scalar {
    projection
    table := match model with
      | some m => m.table
      | none => field.table
    conditions
    orderBy := orderKeys column field.orderBy
    firstOnly := field.op = .first } aliasName

/-! ## Finding rows -/

/-- The fields of the queried model that are asked for, if not all of them are: those that the
arguments name, else those of a selection without all scalars. -/
def baseFields (s : Schema) (q : Query) : Option (List String) :=
  if !q.arguments.selectFields.isEmpty then some q.arguments.selectFields
  else
    match q.selection with
    | none => none
    | some selection =>
      if selection.scalars then none
      else
        let fields := selection.flagged.filter fun name => (s.relation? q.model name).isNone
        if fields.isEmpty then none else some fields

/-- The items of the queried model. -/
def baseItems (c : Context) (base : Occurrence) (q : Query) : List Item :=
  match baseFields c.schema q with
  | some fields => fields.map fun field => .column (base.field c field)
  | none =>
    match base.table.aliasName with
    | some aliasName => [.everythingOf aliasName]
    | none => [.everything]

/-- The read of the actions that find rows. -/
def planFind (c : Context) (q : Query) : Except CompileError Read := do
  let selection := q.selection.getD {}
  let includes := !(forest c.schema q.model selection).isEmpty
  let base :=
    if includes || !q.arguments.computed.isEmpty then Occurrence.aliased c q.model baseAlias
    else Occurrence.plain c q.model
  let joins ← planJoins c base selection
  let visible := base.name :: joins.flatMap PlannedJoin.names
  let computed ← q.arguments.computed.mapM fun field => planComputed c base field.1 field.2
  let items := baseItems c base q ++ joins.flatMap joinedItems ++ computed
  let take := if q.action.isSingleRead then some 1 else q.arguments.take
  let pageFirst := (take.isSome || q.arguments.skip.isSome) && joins.any (·.inclusion.isList)
  let orderBy := orderKeys (base.field c) q.arguments.orderBy
  let read (select : Select) : Read :=
    { select, computed := q.arguments.computed.keys, inclusions := joins.map (·.inclusion) }
  if pageFirst then do
    let page ← planPage c q.model q.arguments take
    let joined ← joins.mapM (renderJoin c visible)
    return read { items, base := .page page base.name, joins := joined, orderBy }
  else do
    let joined ← joins.mapM (renderJoin c visible)
    let clause ← optionalClause c base visible q.arguments.filter
    return read {
      items, base := .table base.table, joins := joined, clause, orderBy, take
      skip := q.arguments.skip }

/-! ## Counting and aggregating -/

/-- The read that counts rows. -/
def planCount (c : Context) (q : Query) : Except CompileError Read := do
  let (base, clause) ← planSource c q
  return { select := { items := [.count], base, clause } }

/-- The aggregate of a function over a field. -/
def aggregateItem (c : Context) (model function key field : String) : Item :=
  .aggregate (.apply function ⟨none, c.schema.columnOf model field⟩) s!"{key}_{field}"

/-- The aggregates of functions. -/
def plainAggregates (c : Context) (model : String) (spec : Aggregates) : List Item :=
  let counted := match spec.count with
    | some count =>
      (if count.all then [Item.aggregate .rows "_count"] else []) ++
        count.fields.map (aggregateItem c model "COUNT" "_count")
    | none => []
  counted ++ spec.avg.map (aggregateItem c model "AVG" "_avg") ++
    spec.sum.map (aggregateItem c model "SUM" "_sum") ++
    spec.min.map (aggregateItem c model "MIN" "_min") ++
    spec.max.map (aggregateItem c model "MAX" "_max")

/-- All aggregates over the rows of an occurrence. Filtered counts are left out where the dialect
has none. -/
def planAggregates (c : Context) (filtered : Bool) (row : Occurrence) (spec : Aggregates) :
    Except CompileError (List Item) := do
  let counts ←
    if filtered then
      spec.filtered.mapM fun counted => do
        return Item.filteredCount (← clauseOf c row [row.name] counted.2) counted.1
    else .ok []
  return plainAggregates c row.model spec ++ counts

/-- The read that aggregates rows. `filtered` says whether the dialect has filtered counts. -/
def planAggregate (c : Context) (filtered : Bool) (q : Query) : Except CompileError Read := do
  let spec := q.arguments.aggregates.getD {}
  let row :=
    if isPaginated q.arguments then Occurrence.aliased c q.model pageAlias
    else Occurrence.plain c q.model
  let items ← planAggregates c filtered row spec
  if items.isEmpty then
    throw (if spec.isEmpty then .noAggregates else .onlyFilteredCounts)
  let (base, clause) ← planSource c q
  return { select := { items, base, clause } }

/-- The read that aggregates rows in groups. -/
def planGroupBy (c : Context) (filtered : Bool) (q : Query) : Except CompileError Read := do
  if q.arguments.groupBy.isEmpty then throw .groupByWithoutFields
  let row := Occurrence.plain c q.model
  let groups := q.arguments.groupBy.map (row.field c)
  let aggregates ← planAggregates c filtered row (q.arguments.aggregates.getD {})
  let clause ← optionalClause c row [row.name] q.arguments.filter
  return { select := {
    items := groups.map .column ++ aggregates, base := .table row.table, clause, groupBy := groups
    orderBy := orderKeys (row.field c) q.arguments.orderBy, take := q.arguments.take
    skip := q.arguments.skip } }

end RelationalQuery.Compile
