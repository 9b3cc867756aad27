import RelationalQuery.Compile.Context
import RelationalQuery.Compile.FreshName
import RelationalQuery.Value.Document

/-!
# Conditions of filters

A filter on the rows of an occurrence becomes a clause: every entry one condition or more. Entries
of one filter hold together, connectives combine clauses, and a criterion over related rows becomes
a subquery that is tied to the row outside.

## Shape of the names

Table names and aliases of the scopes around a subquery are visible inside it. A subquery at the
outer level reads its table under its own name unless that name is visible; deeper ones, and those
over a join table, always take an alias. Aliases are fresh among all names that the clause has used,
and stay used to its end.
-/

namespace RelationalQuery.Compile

open Sql (Clause Column Condition Source)

/-- Planning that draws fresh names from those used so far, or fails. -/
abbrev Naming := StateT (List String) (Except CompileError)

/-- Draws a fresh name. -/
def allocate (base : String) : Naming String := do
  let name := freshName (← get) base
  modify (name :: ·)
  return name

/-- Marks a name as used. -/
def reserve (name : String) : Naming Unit := modify (name :: ·)

/-! ## Comparisons -/

/-- The keys that are no comparison. -/
def unknownKeys (operators : Dict Value) : List String :=
  operators.keys.filter fun key => (Comparison.ofKey? key).isNone

/-- A column that equals a value, or is null. -/
def equals (column : Column) : Value → Condition
  | .null => .isNull column false
  | value => .compare column .eq value

/-- The values of a membership: those of a list, or a single one. -/
def members : Value → List Value
  | .list items => items
  | value => [value]

/-- The text that is searched for. -/
def searchText (op : Comparison) (field : String) : Value → Except CompileError String
  | .null => .error (.searchWithoutText op field "null")
  | .list items => .error (.searchWithoutText op field (Value.list items).kind)
  | .object entries => .error (.searchWithoutText op field (Value.object entries).kind)
  | value => .ok value.display

/-- A comparison with an operand that is not itself made of comparisons. -/
def compareWith (column : Column) (field : String) (op : Comparison) (operand : Value) :
    Except CompileError Condition :=
  match op with
  | .equals => .ok (equals column operand)
  | .not =>
    .ok (match operand with
      | .null => .isNull column true
      | value => .compare column .ne value)
  | .isIn => .ok (.member column false (members operand))
  | .notIn => .ok (.member column true (members operand))
  | .lt => .ok (.compare column .lt operand)
  | .lte => .ok (.compare column .le operand)
  | .gt => .ok (.compare column .gt operand)
  | .gte => .ok (.compare column .ge operand)
  | .search place insensitive => do
    let text ← searchText op field operand
    return .compare column (.like insensitive) (.text (place.pattern text))

mutual

/-- The conditions of comparisons, all of whose keys are known. -/
def eachComparison (column : Column) (field : String) :
    List (String × Value) → Except CompileError Clause
  | [] => .ok []
  | (key, operand) :: rest => do
    let condition ← comparison column field key operand
    return condition :: (← eachComparison column field rest)

/-- The condition of one comparison. Comparisons under `not` are negated together. -/
def comparison (column : Column) (field key : String) : Value → Except CompileError Condition
  | .object nested =>
    match Comparison.ofKey? key with
    | none => .error (.unknownOperators field [key])
    | some .not =>
      if nested.isEmpty then .error (.emptyNot field)
      else
        match unknownKeys nested with
        | [] => return .negation (← eachComparison column field nested)
        | unknown => .error (.unknownOperators field unknown)
    | some op => compareWith column field op (.object nested)
  | operand =>
    match Comparison.ofKey? key with
    | none => .error (.unknownOperators field [key])
    | some op => compareWith column field op operand

end

/-- The conditions of a dictionary of comparisons. Unknown keys are reported together. -/
def comparisons (column : Column) (field : String) (operators : Dict Value) :
    Except CompileError Clause :=
  match unknownKeys operators with
  | [] => eachComparison column field operators
  | unknown => .error (.unknownOperators field unknown)

/-! ## Subqueries -/

/-- Where a filter stands: the row that it is about, and the names that are visible there. -/
structure Scope where
  row : Occurrence
  visible : List String
  /-- Whether the scope is that of a subquery. -/
  nested : Bool := false
  deriving Repr

/-- The tables of a subquery over related rows: what it reads, the related row, and the two columns
by which it is tied to the row outside. -/
structure Entry where
  source : Source
  row : Occurrence
  left : Column
  right : Column
  deriving Repr

/-- Introduces the tables of a subquery over the rows of a relation's target. -/
def enter (c : Context) (scope : Scope) (field : String) (relation : Relation) : Naming Entry := do
  match c.schema.link scope.row.model relation with
  | .junction none _ _ _ _ => throw (.noJoinTable field (some scope.row.model))
  | .junction (some table) ownId ownColumn targetColumn targetId =>
    let aliasName ← allocate s!"sub_{field}"
    let junction : Sql.Table ←
      if scope.visible.contains table then
        pure ⟨table, some (← allocate s!"sub_{field}_join")⟩
      else pure ⟨table, none⟩
    let row := Occurrence.aliased c relation.target aliasName
    return {
      source :=
        .linked junction row.table (row.outer targetId) ⟨some junction.reference, targetColumn⟩
      row
      left := ⟨some junction.reference, ownColumn⟩
      right := scope.row.outer ownId }
  | .direct own target =>
    let table := c.schema.tableOf relation.target
    let row ←
      if scope.nested || scope.visible.contains table then
        pure (Occurrence.aliased c relation.target (← allocate s!"sub_{field}"))
      else do
        reserve table
        pure (Occurrence.plain c relation.target)
    return {
      source := .single row.table
      row
      left := row.own target
      right := scope.row.outer own }

/-- The condition that related rows meet, as many as the quantifier says: that a row passes, that
none passes, or that none fails. -/
def quantified (quantifier : Quantifier) (entry : Entry) (clause : Clause) : Condition :=
  match quantifier with
  | .some => .subquery false entry.source entry.left entry.right clause
  | .none => .subquery true entry.source entry.left entry.right clause
  | .every => .subquery true entry.source entry.left entry.right [.negation clause]

/-! ## Filters -/

/-- Combines clauses as a connective says. -/
def combined : Connective → List Clause → Clause
  | .all, clauses => [.junction true clauses]
  | .any, clauses => [.junction false clauses]
  | .not, clauses => clauses.map .negation

/-- Checks that a field may be compared with values, which relations may not. -/
def comparable (c : Context) (scope : Scope) (key : String) : Except CompileError Unit :=
  match Connective.ofKey? key with
  | some connective => .error (.connectiveWithoutFilters connective)
  | none =>
    if (c.schema.relation? scope.row.model key).isSome then
      .error (.relationWithoutQuantifier key scope.row.model)
    else .ok ()

/-- The relation that a quantifier stands under. -/
def quantifiable (c : Context) (scope : Scope) (key : String) : Except CompileError Relation :=
  match Connective.ofKey? key with
  | some connective => .error (.connectiveWithoutFilters connective)
  | none =>
    match c.schema.relation? scope.row.model key with
    | some relation => .ok relation
    | none => .error (.quantifierWithoutRelation key scope.row.model)

mutual

/-- The conditions of a filter on the row of a scope. -/
def conditions (c : Context) (scope : Scope) : List (String × Criterion) → Naming Clause
  | [] => return []
  | (key, criterion) :: rest => do
    let here ← criterionConditions c scope key criterion
    return here ++ (← conditions c scope rest)

/-- The conditions of one entry of a filter. -/
def criterionConditions (c : Context) (scope : Scope) (key : String) : Criterion → Naming Clause
  | .literal value => do
    comparable c scope key
    return [equals (scope.row.field c key) value]
  | .comparison operators => do
    comparable c scope key
    comparisons (scope.row.field c key) key operators
  | .logical connective operands => do
    if (Connective.ofKey? key).isNone then throw (.logicalUnderField key scope.row.model)
    return combined connective (← clauses c scope operands)
  | .related quantifier nested => do
    let relation ← quantifiable c scope key
    c.checkModel relation.target
    let entry ← enter c scope key relation
    let clause ← conditions c ⟨entry.row, entry.row.name :: scope.visible, true⟩ nested
    return [quantified quantifier entry clause]

/-- The clauses of a list of filters. -/
def clauses (c : Context) (scope : Scope) : List (List (String × Criterion)) → Naming (List Clause)
  | [] => return []
  | filter :: rest => do
    let clause ← conditions c scope filter
    return clause :: (← clauses c scope rest)

end

/-- The clause of a filter on a row, where the given names are visible. -/
def clauseOf (c : Context) (row : Occurrence) (visible : List String) (filter : Filter) :
    Except CompileError Clause :=
  (conditions c ⟨row, visible, false⟩ filter).run' visible

/-- The clause of a filter that may be missing. -/
def optionalClause (c : Context) (row : Occurrence) (visible : List String) :
    Option Filter → Except CompileError Clause
  | some filter => clauseOf c row visible filter
  | none => .ok []

end RelationalQuery.Compile
