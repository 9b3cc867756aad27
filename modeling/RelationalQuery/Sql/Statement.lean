import RelationalQuery.Sql.Fragment
import RelationalQuery.Value.Document

/-!
# Statements

A `Statement` is what a driver is handed: text, arguments and the tags of the arguments. Beside it
stands what is needed to read the answer: whether rows are returned, which columns are computed
fields and which rows are joined in.

`placeholderCount` counts the placeholders of a text, leaving out what stands in quotes.
-/

namespace RelationalQuery

/-- Related rows that a read joins in. -/
structure Inclusion where
  /-- The relation's field on the model above. -/
  relation : String
  /-- The name of the joined table in the statement. -/
  aliasName : String
  /-- The name of the table that it is joined to. -/
  parent : String
  isList : Bool
  /-- The columns that are selected, each as `columnAlias`. None are known of an unknown model. -/
  columns : Option (List String)
  deriving DecidableEq, Repr

/-- A statement that is ready to be sent. -/
structure Statement where
  sql : String
  args : List Value
  /-- The tags of the arguments. -/
  argTypes : List BindType := args.map BindType.of
  returnsRows : Bool := false
  /-- The aliases of computed fields. -/
  computed : List String := []
  inclusions : List Inclusion := []
  deriving Inhabited, Repr

namespace Inclusion

/-- The name under which a column of the joined table `alias` is selected. -/
def aliasOf (aliasName column : String) : String := aliasName ++ "__" ++ column

/-- The name under which a column is selected. -/
def columnAlias (i : Inclusion) (column : String) : String := aliasOf i.aliasName column

/-- The document of an inclusion. -/
def toJson (i : Inclusion) : Json :=
  .object [("relation", .string i.relation), ("alias", .string i.aliasName),
    ("parentAlias", .string i.parent), ("isList", .bool i.isList),
    ("columns", Json.ofOption Json.strings i.columns)]

end Inclusion

/-- Counts the placeholders of a text. `quote` is the quote that is open, if one is. -/
def countPlaceholders (quote : Option Char) : List Char → Nat
  | [] => 0
  | c :: rest =>
    match quote with
    | some opening => countPlaceholders (if c = opening then none else quote) rest
    | none =>
      if c = '"' ∨ c = '\x60' ∨ c = '\x27' then countPlaceholders (some c) rest
      else if c = '?' ∨ c = '$' ∧ rest.head?.any Text.isDigit then countPlaceholders none rest + 1
      else countPlaceholders none rest

namespace Statement

/-- The number of placeholders outside of quotes. -/
def placeholderCount (s : Statement) : Nat := countPlaceholders none s.sql.toList

/-- The statement of a fragment. -/
def ofFragment (d : Dialect) (returnsRows : Bool) (fragment : Fragment) : Statement :=
  let (sql, args) := fragment.render d
  { sql, args, returnsRows }

/-- The statement with another first argument, if it has arguments. Its tag changes with it. -/
def withFirstArg (s : Statement) (value : Value) : Statement :=
  match s.args, s.argTypes with
  | _ :: args, _ :: argTypes =>
    { s with args := value :: args, argTypes := BindType.of value :: argTypes }
  | _, _ => s

/-- Another first argument leaves the text as it is. -/
theorem sql_withFirstArg (s : Statement) (value : Value) : (s.withFirstArg value).sql = s.sql := by
  rw [withFirstArg]
  split <;> rfl

/-- Whether every argument has its own tag. -/
def Tagged (s : Statement) : Prop := s.argTypes = s.args.map BindType.of

theorem tagged_ofFragment (d : Dialect) (returnsRows : Bool) (fragment : Fragment) :
    (ofFragment d returnsRows fragment).Tagged := rfl

/-- Tagged statements with the same parts are the same. -/
theorem Tagged.eq_of_parts {s s' : Statement} (h : s.Tagged) (h' : s'.Tagged)
    (hsql : s.sql = s'.sql) (hargs : s.args = s'.args) (hrows : s.returnsRows = s'.returnsRows)
    (hcomputed : s.computed = s'.computed) (hinclusions : s.inclusions = s'.inclusions) :
    s = s' := by
  have htags : s.argTypes = s'.argTypes := by rw [h, h', hargs]
  cases s
  simp_all only

/-- The first argument of a tagged statement can be replaced. -/
theorem Tagged.withFirstArg_eq {s : Statement} (h : s.Tagged) {first : Value} {rest : List Value}
    (hargs : s.args = first :: rest) (value : Value) :
    s.withFirstArg value =
      { s with args := value :: rest, argTypes := (value :: rest).map BindType.of } := by
  rw [Tagged, hargs, List.map_cons] at h
  rw [withFirstArg, hargs, h, List.map_cons]

theorem Tagged.withFirstArg {s : Statement} (h : s.Tagged) (value : Value) :
    (s.withFirstArg value).Tagged := by
  cases hargs : s.args with
  | nil =>
    rw [Statement.withFirstArg, hargs]
    exact h
  | cons first rest =>
    rw [h.withFirstArg_eq hargs]
    rfl

/-- The members of the document of text, arguments and tags. -/
def callMembers (s : Statement) : Dict Json :=
  [("sql", .string s.sql), ("args", Value.documents s.args),
    ("argTypes", Json.strings (s.argTypes.map BindType.key))]

/-- The document of a statement. Without joined rows they are left out. -/
def toJson (s : Statement) : Json :=
  .object (s.callMembers ++ [("returnsRows", .bool s.returnsRows),
    ("computedFieldNames", Json.strings s.computed)] ++
    (if s.inclusions.isEmpty then [] else
      [("includes", .array (s.inclusions.map Inclusion.toJson))]))

end Statement

/-- A write together with the writes to join tables that follow it. -/
structure Mutation where
  main : Statement
  /-- Each binds the id of the written row first. -/
  relations : List Statement := []
  /-- The column in which the database returns the id of the written row, if it is not known before.
  A null stands in its place until then. -/
  generatedId : Option String := none
  deriving Inhabited, Repr

namespace Mutation

/-- The writes to join tables, for a written row with this id. -/
def bindGeneratedId (m : Mutation) (id : Value) : List Statement :=
  m.relations.map (·.withFirstArg id)

/-- The document of a mutation. -/
def toJson (m : Mutation) : Json :=
  .object ([("mainQuery", m.main.toJson),
    ("relationMutations", .array (m.relations.map Statement.toJson))] ++
    (match m.generatedId with
      | some column => [("generatedId", Json.object [("column", .string column)])]
      | none => []))

end Mutation

end RelationalQuery
