import RelationalQuery.Proofs.Meaning.Truth
import RelationalQuery.Sql.Condition

/-!
# What conditions mean to a database

An `Engine` is a database with its tables. It reads a condition in two steps, as databases do.
First every name is looked up, without regard to rows: a statement with a name that is unknown or
ambiguous is refused (`Clause.isBound`). Only then the condition is evaluated for given rows, in
SQL's three truth values (`Clause.truth`). `Clause.answer` puts the two steps together.

## Shape of the scopes

Each `FROM` around a condition opens a scope, a list of the tables that it introduces; scopes are
listed from the innermost one on. A qualified column belongs to the innermost scope that introduces
the qualifier, an unqualified one to the innermost scope with a table that has the column. There it
must be the only one, and the tables of one `FROM` must have different names.
-/

namespace RelationalQuery

open Sql

/-- The values of the columns of a row. -/
abbrev StoredRow := String → Value

/-- The columns of a table and its rows. -/
structure StoredTable where
  columns : List String
  rows : List StoredRow

/-- A database: the dialect that it speaks, its tables, and whether a comparison, given by its word,
holds between two values that are not null. -/
structure Engine where
  dialect : Dialect
  tables : String → StoredTable
  holds : String → Value → Value → Bool

/-- A table that a `FROM` introduces: its name there and its columns. -/
structure Heading where
  name : String
  columns : List String
  deriving DecidableEq, Repr

/-- A table that a `FROM` introduces, at one of its rows. -/
structure Binding where
  heading : Heading
  row : StoredRow

/-- The tables of one `FROM`, each at one of its rows. -/
abbrev Frame := List Binding

/-- The names and columns of a frame. -/
def Frame.headings (frame : Frame) : List Heading := frame.map Binding.heading

/-! ## Names -/

/-- Whether a column may belong to a table that is introduced: by its qualifier, or if it has none,
by its own name. -/
def Heading.offers (h : Heading) (column : Column) : Bool :=
  match column.table with
  | some name => h.name == name
  | none => h.columns.contains column.name

/-- Whether a column belongs to exactly one table in sight, which has it. -/
def Sql.Column.isBound : List (List Heading) → Column → Bool
  | [], _ => false
  | scope :: outer, column =>
    match scope.filter (·.offers column) with
    | [] => isBound outer column
    | [heading] => heading.columns.contains column.name
    | _ => false

/-- The value of a column that belongs to one table in sight. -/
def Sql.Column.value : List Frame → Column → Value
  | [], _ => .null
  | frame :: outer, column =>
    match frame.find? (·.heading.offers column) with
    | some binding => binding.row column.name
    | none => value outer column

/-! ## Tables -/

namespace Engine

/-- A table as it is introduced. -/
def heading (e : Engine) (t : Table) : Heading := ⟨t.reference, (e.tables t.name).columns⟩

/-- The tables that a `FROM` introduces. -/
def headings (e : Engine) : Source → List Heading
  | .single table => [e.heading table]
  | .linked junction target _ _ => [e.heading junction, e.heading target]

/-- The rows that a `FROM` goes through, before any condition. -/
def frames (e : Engine) : Source → List Frame
  | .single table => (e.tables table.name).rows.map fun row => [⟨e.heading table, row⟩]
  | .linked junction target _ _ =>
    (e.tables junction.name).rows.flatMap fun link =>
      (e.tables target.name).rows.map fun row =>
        [⟨e.heading junction, link⟩, ⟨e.heading target, row⟩]

/-- A comparison of two values, which is unknown if one of them is null. -/
def compared (e : Engine) (word : String) (a b : Value) : Truth :=
  if a.isNull || b.isNull then .unknown else .ofBool (e.holds word a b)

/-- Whether a value is among others. -/
def among (e : Engine) (value : Value) (values : List Value) : Truth :=
  .any (values.map (e.compared "=" value))

/-- Whether two columns are equal. -/
def equated (e : Engine) (scopes : List Frame) (left right : Column) : Truth :=
  e.compared "=" (left.value scopes) (right.value scopes)

end Engine

namespace Sql

/-- The columns that the tables of a `FROM` are joined by. -/
def Source.equations : Source → List (Column × Column)
  | .single _ => []
  | .linked _ _ left right => [(left, right)]

/-! ## Conditions -/

namespace Condition

mutual

/-- Whether the tables of each `FROM` in a condition have different names. -/
def hasDistinctNames : Condition → Bool
  | isNull _ _ => true
  | compare _ _ _ => true
  | member _ _ _ => true
  | junction _ clauses => clausesHaveDistinctNames clauses
  | negation clause => haveDistinctNames clause
  | subquery _ source _ _ conditions => decide source.names.Nodup && haveDistinctNames conditions

/-- Whether the tables of each `FROM` in conditions have different names. -/
def haveDistinctNames : List Condition → Bool
  | [] => true
  | condition :: rest => hasDistinctNames condition && haveDistinctNames rest

/-- Whether the tables of each `FROM` in clauses have different names. -/
def clausesHaveDistinctNames : List (List Condition) → Bool
  | [] => true
  | clause :: rest => haveDistinctNames clause && clausesHaveDistinctNames rest

end

mutual

/-- Whether all names of a condition are bound in the given scopes. -/
def isBound (e : Engine) (scopes : List (List Heading)) : Condition → Bool
  | isNull column _ => column.isBound scopes
  | compare column _ _ => column.isBound scopes
  | member column _ _ => column.isBound scopes
  | junction _ clauses => clausesAreBound e scopes clauses
  | negation clause => areBound e scopes clause
  | subquery _ source left right conditions =>
    decide source.names.Nodup &&
      (source.equations ++ [(left, right)]).all (fun columns =>
        columns.1.isBound (e.headings source :: scopes) &&
          columns.2.isBound (e.headings source :: scopes)) &&
      areBound e (e.headings source :: scopes) conditions

/-- Whether all names of conditions are bound. -/
def areBound (e : Engine) (scopes : List (List Heading)) : List Condition → Bool
  | [] => true
  | condition :: rest => isBound e scopes condition && areBound e scopes rest

/-- Whether all names of clauses are bound. -/
def clausesAreBound (e : Engine) (scopes : List (List Heading)) : List (List Condition) → Bool
  | [] => true
  | clause :: rest => areBound e scopes clause && clausesAreBound e scopes rest

end

mutual

/-- The truth value of a condition whose names are bound, in scopes at given rows. -/
def truth (e : Engine) (scopes : List Frame) : Condition → Truth
  | isNull column negated => .ofBool ((column.value scopes).isNull != negated)
  | compare column op value => e.compared (op.sql e.dialect) (column.value scopes) value
  | member column negated values =>
    if negated then (e.among (column.value scopes) values).not
    else e.among (column.value scopes) values
  | junction all clauses =>
    if all then .all (clauseTruths e scopes clauses) else .any (clauseTruths e scopes clauses)
  | negation clause => (Truth.all (truths e scopes clause)).not
  | subquery negated source left right conditions =>
    .ofBool ((e.frames source).any (fun frame =>
      (source.equations ++ [(left, right)]).all (fun columns =>
        e.equated (frame :: scopes) columns.1 columns.2 = .yes) &&
      Truth.all (truths e (frame :: scopes) conditions) = .yes) != negated)

/-- The truth values of conditions. -/
def truths (e : Engine) (scopes : List Frame) : List Condition → List Truth
  | [] => []
  | condition :: rest => truth e scopes condition :: truths e scopes rest

/-- The truth values of clauses. -/
def clauseTruths (e : Engine) (scopes : List Frame) : List (List Condition) → List Truth
  | [] => []
  | clause :: rest => Truth.all (truths e scopes clause) :: clauseTruths e scopes rest

end

end Condition

namespace Clause

/-- Whether the tables of each `FROM` in a clause have different names. -/
def hasDistinctNames (clause : Clause) : Bool := Condition.haveDistinctNames clause

/-- Whether all names of a clause are bound. -/
def isBound (e : Engine) (scopes : List (List Heading)) (clause : Clause) : Bool :=
  Condition.areBound e scopes clause

/-- The truth value of a clause whose names are bound. -/
def truth (e : Engine) (scopes : List Frame) (clause : Clause) : Truth :=
  .all (Condition.truths e scopes clause)

/-- What a database answers: the truth value of a clause, or nothing where it refuses the names. -/
def answer (e : Engine) (scopes : List Frame) (clause : Clause) : Option Truth :=
  if clause.isBound e (scopes.map Frame.headings) then some (clause.truth e scopes) else none

end Clause

end Sql

end RelationalQuery
