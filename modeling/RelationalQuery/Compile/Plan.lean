import RelationalQuery.Compile.Read
import RelationalQuery.Compile.Write

/-!
# Plans

The plan of a query is the tree of its statement, a read or a write. Of the dialect it needs to know
only whether filtered counts can be computed; all else that dialects differ in is a matter of the
text.
-/

namespace RelationalQuery.Compile

/-- What a query is compiled to. -/
inductive Plan
  | read (read : Read)
  | write (write : Sql.Write)
  deriving Repr

/-- The statement of a plan. -/
def Plan.statement (d : Dialect) : Plan → Statement
  | read r => r.statement d
  | write w => w.statement d

/-- The plan of a query. `filtered` says whether the dialect has filtered counts. -/
def plan (c : Context) (filtered : Bool) (q : Query) : Except CompileError Plan := do
  c.checkModel q.model
  match q.action with
  | .findUnique | .findUniqueOrThrow | .findFirst | .findFirstOrThrow | .findMany =>
    return .read (← planFind c q)
  | .count => return .read (← planCount c q)
  | .aggregate => return .read (← planAggregate c filtered q)
  | .groupBy => return .read (← planGroupBy c filtered q)
  | .create => return .write (← planCreate c q)
  | .createMany => return .write (← planCreateMany c q)
  | .update => return .write (← planUpdate c q true)
  | .updateMany => return .write (← planUpdate c q false)
  | .upsert => return .write (← planUpsert c q)
  | .delete | .deleteMany => return .write (← planDelete c q)

end RelationalQuery.Compile
