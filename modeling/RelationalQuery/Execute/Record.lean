import RelationalQuery.Adapter.ResultSet
import RelationalQuery.Compile.Include
import RelationalQuery.Execute.FieldName

/-!
# Records

A record holds the cells of a row under field names. The rows of a read that joins relations repeat
a row once for each combination of related rows; `records` folds them back, so that every row is one
record and the records related to it are nested under the names of the relations.

## Shape of the fold

The columns of a joined table are selected as `alias__column`, which tells whose they are. Rows that
agree in all columns of one table are the same row of it. Rows of a joined table in which all
columns are null stand for no related row.
-/

namespace RelationalQuery.Execute

/-- A row under the names of fields, in the order of its columns. -/
abbrev Record := Dict Value

/-! ## Columns -/

/-- A column of the answer: its place in a row, and the key under which records hold it. -/
structure Slot where
  index : Nat
  key : String
  deriving DecidableEq, Repr

/-- What follows the alias of a joined table in the name of a column, if the column is one of that
table. -/
def columnOf? (aliasName name : String) : Option String :=
  (List.isPrefixOf? (Inclusion.aliasOf aliasName "").toList name.toList).map String.ofList

/-- The alias of the joined table that a column belongs to, and its name there. -/
def owner? (inclusions : List Inclusion) (name : String) : Option (String × String) :=
  inclusions.findSome? fun inclusion =>
    (columnOf? inclusion.aliasName name).map fun column => (inclusion.aliasName, column)

/-- The key of a column that belongs to no joined table. Computed fields keep their names. -/
def baseKey (computed : List String) (name : String) : String :=
  if computed.contains name then name else fieldName name

/-- The columns of the queried table, with computed fields. -/
def baseSlots (s : Statement) (names : List String) : List Slot :=
  names.zipIdx.filterMap fun entry =>
    match owner? s.inclusions entry.1 with
    | none => some ⟨entry.2, baseKey s.computed entry.1⟩
    | some _ => none

/-- The columns of a joined table. -/
def joinedSlots (s : Statement) (names : List String) (aliasName : String) : List Slot :=
  names.zipIdx.filterMap fun entry =>
    match owner? s.inclusions entry.1 with
    | some (owner, column) => if owner = aliasName then some ⟨entry.2, fieldName column⟩ else none
    | none => none

/-- The cells of a row in some columns. A row that is too short goes on with nulls. -/
def cells (slots : List Slot) (row : Row) : List Value :=
  slots.map fun slot => row[slot.index]?.getD .null

/-- The record of cells under the keys of their columns. -/
def recordOf (slots : List Slot) (values : List Value) : Record :=
  Dict.ofList ((slots.map (·.key)).zip values)

/-! ## Rows of one table -/

/-- Whether two lists of cells are those of the same row. -/
def sameCells (a b : List Value) : Bool := Value.sameItems a b

/-- Rows that agree in the columns of a table, with their cells in those columns. -/
structure Group where
  cells : List Value
  rows : List Row
  deriving Repr

/-- Adds a row to the first group with its cells, or as a group of its own. -/
def addRow (values : List Value) (row : Row) : List Group → List Group
  | [] => [⟨values, [row]⟩]
  | group :: rest =>
    if sameCells group.cells values then { group with rows := group.rows ++ [row] } :: rest
    else group :: addRow values row rest

/-- Groups rows by their cells in some columns, in the order of their first rows. -/
def groupRows (slots : List Slot) (rows : List Row) : List Group :=
  rows.foldl (fun groups row => addRow (cells slots row) row groups) []

/-- The rows that have a cell in some columns which is not null. -/
def presentRows (slots : List Slot) (rows : List Row) : List Row :=
  rows.filter fun row => (cells slots row).any (!·.isNull)

/-! ## Nesting -/

/-- The columns of a joined table, with the tables that are joined to it. -/
inductive Layout
  | node (relation : String) (isList : Bool) (slots : List Slot) (children : List Layout)
  deriving Repr

/-- The tables that are joined to `parent`. A table is listed after the one that it is joined to,
and tables whose columns are not known are left out together with those joined to them. -/
def layoutsBelow (s : Statement) (names : List String) (parent : String) :
    List Inclusion → List Layout
  | [] => []
  | inclusion :: rest =>
    if inclusion.parent = parent ∧ inclusion.columns.isSome then
      .node inclusion.relation inclusion.isList (joinedSlots s names inclusion.aliasName)
          (layoutsBelow s names inclusion.aliasName rest) ::
        layoutsBelow s names parent rest
    else layoutsBelow s names parent rest

/-- The value of a relation: all related records, or the first one. -/
def relationValue (isList : Bool) (related : List Record) : Value :=
  if isList then .list (related.map .object)
  else
    match related with
    | first :: _ => .object first
    | [] => .null

mutual

/-- The records of a joined table in some rows. -/
def Layout.records : Layout → List Row → List Record
  | .node _ _ slots children, rows =>
    (groupRows slots (presentRows slots rows)).map fun group =>
      nest children group.rows (recordOf slots group.cells)

/-- Nests the records of joined tables in some rows under a record. -/
def nest : List Layout → List Row → Record → Record
  | [], _, record => record
  | .node relation isList slots children :: rest, rows, record =>
    nest rest rows
      (record.put relation
        (relationValue isList (Layout.records (.node relation isList slots children) rows)))

end

/-- The records of an answer to a statement. -/
def records (s : Statement) (r : ResultSet) : List Record :=
  let slots := baseSlots s r.names
  if s.inclusions.isEmpty then r.rows.map fun row => recordOf slots (cells slots row)
  else
    let layouts := layoutsBelow s r.names Compile.baseAlias s.inclusions
    (groupRows slots r.rows).map fun group =>
      nest layouts group.rows (recordOf slots group.cells)

end RelationalQuery.Execute
