import RelationalQuery.Compile.Mutation
import RelationalQuery.Query.Reader.Query
import RelationalQuery.Schema.Document

/-!
# Compilers

A `Compiler` turns queries into statements of one dialect, by one schema. Whether models have to be
registered is a setting, which a compiler may overrule.
-/

namespace RelationalQuery

/-- What all compilers have in common unless they say otherwise. -/
structure CompilerSettings where
  strictValidation : Bool := false
  deriving DecidableEq, Repr

/-- Whether a text switches something on: in any case, with white space around it. -/
def isSwitchedOn (text : String) : Bool :=
  let plain := Text.asciiLower (Text.trim text)
  plain = "1" || plain = "true" || plain = "yes" || plain = "on"

/-- The settings that go with the text of a flag. Nothing is switched on without one. -/
def CompilerSettings.ofFlag (text : Option String) : CompilerSettings :=
  ⟨text.any isSwitchedOn⟩

/-- A compiler of queries. -/
structure Compiler where
  dialect : Dialect
  schema : Schema := {}
  settings : CompilerSettings := {}
  /-- Whether models have to be registered, in place of the setting. -/
  strict : Option Bool := none
  deriving Repr

namespace Compiler

/-- Whether models have to be registered. -/
def isStrict (k : Compiler) : Bool := k.strict.getD k.settings.strictValidation

/-- What a compilation knows. -/
def context (k : Compiler) : Compile.Context := ⟨k.schema, k.isStrict⟩

/-- The statement of a query. A query that connects rows needs several, which `mutation` gives. -/
def statement (k : Compiler) (q : Query) : Except CompileError Statement :=
  (·.statement k.dialect) <$> Compile.plan k.context (k.dialect.has .filteredAggregates) q

/-- The statement of a query that is given as a document. -/
def statementOfJson (k : Compiler) (json : Json) : Except CompileError Statement :=
  match Query.ofJson json with
  | .ok q => k.statement q
  | .error error => .error (.malformed error)

/-- The statements of a query that may connect rows. -/
def mutation (k : Compiler) (q : Query) : Except CompileError Mutation :=
  (·.mutation k.dialect) <$> Compile.planMutation k.context (k.dialect.has .filteredAggregates) q

end Compiler

/-! ## Default schema -/

/-- The schema that is used where none is given. It can be installed once. -/
structure DefaultSchema where
  installed : Option Schema := none
  deriving Repr

namespace DefaultSchema

/-- The schema, which is empty until one is installed. -/
def current (s : DefaultSchema) : Schema := s.installed.getD {}

/-- Installs a schema, unless one is installed already. -/
def install (s : DefaultSchema) (schema : Schema) : Except QueryError DefaultSchema :=
  match s.installed with
  | none => .ok ⟨some schema⟩
  | some _ => .error .defaultInstalled

/-- The compiler for the dialect with a name, by the default schema. -/
def compiler (s : DefaultSchema) (dialect : String) : Compiler :=
  { dialect := Dialect.ofName dialect, schema := s.current }

end DefaultSchema

end RelationalQuery
