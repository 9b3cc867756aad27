import RelationalQuery.Sql.Condition
import RelationalQuery.Sql.Statement

/-!
# Writes

The trees of writes: inserts, updates and deletes of rows, and the rows of join tables that connect
written rows with others. What differs between dialects, above all where a row is already there, is
decided when a write is rendered.
-/

namespace RelationalQuery.Sql

open Fragment

/-- Columns and what they are set to. -/
abbrev Assignments := List (String × Value)

/-- An id that a join table holds: a value, or the id of the row that a value names by another
column. -/
inductive Reference
  | value (value : Value)
  | lookup (idColumn table column : String) (value : Value)
  deriving Repr

/-- A write. -/
inductive Write
  /-- One row. Without columns it holds the defaults. -/
  | insert (table : String) (row : Assignments)
  /-- Several rows with the same columns. -/
  | insertRows (table : String) (columns : List String) (rows : List (List Value))
  /-- A row, or if it is there already by the columns `conflict`, the changes to it. -/
  | upsert (table : String) (row : Assignments) (conflict : List String) (changes : Assignments)
  /-- Rows that pass a clause, which may be returned where the dialect can. -/
  | update (table : String) (assignments : Assignments) (clause : Clause) (returned : Bool)
  | delete (table : String) (clause : Clause)
  /-- A row of a join table, if it is not there already. -/
  | connect (table ownColumn targetColumn : String) (own : Value) (target : Reference)
  /-- The row of a join table that connects two rows. -/
  | disconnect (table ownColumn targetColumn : String) (own : Value) (target : Reference)
  deriving Repr

/-- Names one after the other. -/
def namesFragment (names : List String) : Fragment := Fragment.join "," (names.map ofName)

/-- The values of a row in parentheses. -/
def tupleFragment (values : List Value) : Fragment :=
  wrap "(" (Fragment.join "," (values.map (ofParam .data))) ")"

/-- The insert of one row, with the given opening words. -/
def insertFragment (d : Dialect) (opening table : String) (row : Assignments) : Fragment :=
  ofText (opening ++ " ") ++ ofName table ++ ofText " " ++
    (if row.isEmpty then ofText d.defaultValues else
      wrap "(" (namesFragment (row.map Prod.fst)) ") VALUES " ++ tupleFragment (row.map Prod.snd))

/-- The assignments of an update. -/
def assignmentsFragment (assignments : Assignments) : Fragment :=
  Fragment.join ", " (assignments.map fun a => ofName a.1 ++ ofText " = " ++ ofParam .data a.2)

namespace Reference

/-- The text of an id. -/
def fragment (group : ParamGroup) : Reference → Fragment
  | value v => ofParam group v
  | lookup idColumn table column v =>
    wrap "(" (ofText "SELECT " ++ ofName idColumn ++ ofText " FROM " ++ ofName table ++
      ofText " WHERE " ++ ofName column ++ ofText " = " ++ ofParam group v) ")"

end Reference

namespace Write

/-- The insert of a row, and what happens where the row is there already. -/
def upsertFragment (d : Dialect) (table : String) (row : Assignments) (conflict : List String)
    (changes : Assignments) : Fragment :=
  match d with
  | .mysql =>
    if changes.isEmpty then insertFragment d d.insertIgnore table row
    else
      insertFragment d "INSERT INTO" table row ++ ofText " ON DUPLICATE KEY UPDATE " ++
        assignmentsFragment changes
  | _ =>
    insertFragment d "INSERT INTO" table row ++
      wrap " ON CONFLICT (" (namesFragment conflict) ") DO " ++
      (if changes.isEmpty then ofText "NOTHING"
        else ofText "UPDATE SET " ++ assignmentsFragment changes)

/-- Whether a write returns the rows that it wrote. -/
def returnsRows (d : Dialect) : Write → Bool
  | insert _ _ => d.has .returning
  | insertRows _ _ _ => d.has .returning
  | upsert _ _ _ _ => d.has .returning
  | update _ _ _ returned => returned && d.has .returning
  | _ => false

/-- The text of a write without what it returns. -/
def body (d : Dialect) : Write → Fragment
  | insert table row => insertFragment d "INSERT INTO" table row
  | insertRows table columns rows =>
    ofText "INSERT INTO " ++ ofName table ++ wrap " (" (namesFragment columns) ") VALUES " ++
      Fragment.join "," (rows.map tupleFragment)
  | upsert table row conflict changes => upsertFragment d table row conflict changes
  | update table assignments clause _ =>
    ofText "UPDATE " ++ ofName table ++ ofText " SET " ++ assignmentsFragment assignments ++
      clause.whereFragment d
  | delete table clause => ofText "DELETE FROM " ++ ofName table ++ clause.whereFragment d
  | connect table ownColumn targetColumn own target =>
    ofText (d.insertIgnore ++ " ") ++ ofName table ++
      wrap " (" (namesFragment [ownColumn, targetColumn]) ") VALUES (" ++ ofParam .data own ++
      ofText "," ++ target.fragment .data ++ ofText ")" ++
      (match d.ignoreConflict with
        | some words => ofText (" " ++ words)
        | none => [])
  | disconnect table ownColumn targetColumn own target =>
    ofText "DELETE FROM " ++ ofName table ++ ofText " WHERE " ++ ofName ownColumn ++ ofText " = " ++
      ofParam .condition own ++ ofText " AND " ++ ofName targetColumn ++ ofText " = " ++
      target.fragment .condition

/-- The text of a write. -/
def fragment (d : Dialect) (w : Write) : Fragment :=
  w.body d ++ (if w.returnsRows d then ofText " RETURNING *" else [])

/-- The statement of a write. -/
def statement (d : Dialect) (w : Write) : Statement :=
  Statement.ofFragment d (w.returnsRows d) (w.fragment d)

end Write

end RelationalQuery.Sql
