import RelationalQuery.Compile.Error
import RelationalQuery.Schema.Basic
import RelationalQuery.Sql.Condition
import RelationalQuery.Text.Words

/-!
# What a compilation knows

A `Context` is a schema and whether models have to be registered in it. An `Occurrence` is a place
in a statement where the rows of a model stand, and gives the columns of the model there.
-/

namespace RelationalQuery.Compile

/-- A schema, and whether it is binding. -/
structure Context where
  schema : Schema := {}
  strict : Bool := false
  deriving Repr

/-- Whether a name looks like that of a model, as `OrderItem` does: a capital first, lower-case
letters and no underscores. Only ASCII letters count. -/
def looksLikeModel (name : String) : Bool :=
  name.toList.head?.any (·.isUpper) && name.toList.any (·.isLower) && !name.toList.contains '_'

namespace Context

/-- Whether a model may be queried. With a binding schema it has to be registered, or be the table
of a registered model, unless its name looks like that of a table anyway. -/
def accepts (c : Context) (model : String) : Bool :=
  !c.strict || c.schema.isRegistered model || (c.schema.findByTable? model).isSome ||
    !looksLikeModel model

/-- Refuses a model that may not be queried. -/
def checkModel (c : Context) (model : String) : Except CompileError Unit :=
  if c.accepts model then .ok ()
  else .error (.unregisteredModel model (Text.snake model) c.schema.modelNames)

end Context

/-- A place in a statement where the rows of a model stand. -/
structure Occurrence where
  model : String
  table : Sql.Table
  deriving DecidableEq, Repr

namespace Occurrence

/-- A model's table under its own name. -/
def plain (c : Context) (model : String) : Occurrence := ⟨model, ⟨c.schema.tableOf model, none⟩⟩

/-- A model's table under an alias. -/
def aliased (c : Context) (model aliasName : String) : Occurrence :=
  ⟨model, ⟨c.schema.tableOf model, some aliasName⟩⟩

/-- The name of the place. -/
def name (o : Occurrence) : String := o.table.reference

/-- A column in the scope of its own table: qualified where the table has an alias. -/
def own (o : Occurrence) (column : String) : Sql.Column := ⟨o.table.aliasName, column⟩

/-- A column as it is seen from an inner scope, always qualified. -/
def outer (o : Occurrence) (column : String) : Sql.Column := ⟨some o.name, column⟩

/-- The column of a field, in the scope of its own table. -/
def field (o : Occurrence) (c : Context) (field : String) : Sql.Column :=
  o.own (c.schema.columnOf o.model field)

end Occurrence

end RelationalQuery.Compile
