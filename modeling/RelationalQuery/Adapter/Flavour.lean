import RelationalQuery.Adapter.Error
import RelationalQuery.Text.Lowercase
import RelationalQuery.Text.Quoted

/-!
# Flavours and isolation levels

The databases that adapters connect to, and the isolation levels of their transactions.
-/

namespace RelationalQuery

/-- A kind of database. -/
inductive Flavour
  | mysql
  | postgres
  | sqlite
  deriving DecidableEq, Repr

namespace Flavour

/-- The flavours, in order. -/
def all : List Flavour := [mysql, postgres, sqlite]

/-- The name of a flavour. -/
def name : Flavour → String
  | mysql => "mysql"
  | postgres => "postgres"
  | sqlite => "sqlite"

/-- The name of the dialect that a flavour understands. -/
def dialectName : Flavour → String
  | mysql => "mysql"
  | postgres => "postgresql"
  | sqlite => "sqlite"

/-- The flavour with this name. -/
def ofName? (name : String) : Option Flavour :=
  if name = "postgres" ∨ name = "postgresql" ∨ name = "supabase" then some postgres
  else if name = "mysql" then some mysql
  else if name = "sqlite" then some sqlite
  else none

/-- What is said of a name that is no flavour. -/
def unknownMessage (name : String) : String :=
  "Unsupported adapter flavour: " ++ Text.quoted name

/-- Whether the level of a transaction is set before it begins, not as its first statement. -/
def isolationFirst : Flavour → Bool
  | mysql => true
  | _ => false

/-- The schema that a connection uses unless it names one. -/
def defaultSchema : Flavour → String
  | mysql => "mysql"
  | postgres => "public"
  | sqlite => "main"

end Flavour

/-- How far a transaction is isolated from others. -/
inductive IsolationLevel
  | readUncommitted
  | readCommitted
  | repeatableRead
  | snapshot
  | serializable
  deriving DecidableEq, Repr

namespace IsolationLevel

/-- The words for a level. -/
def sql : IsolationLevel → String
  | readUncommitted => "READ UNCOMMITTED"
  | readCommitted => "READ COMMITTED"
  | repeatableRead => "REPEATABLE READ"
  | snapshot => "SNAPSHOT"
  | serializable => "SERIALIZABLE"

/-- The name of a level in documents. -/
def name : IsolationLevel → String
  | readUncommitted => "ReadUncommitted"
  | readCommitted => "ReadCommitted"
  | repeatableRead => "RepeatableRead"
  | snapshot => "Snapshot"
  | serializable => "Serializable"

/-- The levels and their names, in one word and in two. -/
def named : List (String × IsolationLevel) :=
  [("read uncommitted", readUncommitted), ("readuncommitted", readUncommitted),
    ("read committed", readCommitted), ("readcommitted", readCommitted),
    ("repeatable read", repeatableRead), ("repeatableread", repeatableRead),
    ("snapshot", snapshot), ("serializable", serializable)]

/-- The level with this name, in any case. -/
def ofName (name : String) : Except AdapterError IsolationLevel :=
  match Dict.get? named (Text.lowercase name) with
  | some level => .ok level
  | none => .error ⟨.conversion, s!"Invalid isolation level `{name}`"⟩

/-- Whether transactions of a flavour can have a level. -/
def isSupported (level : IsolationLevel) : Flavour → Bool
  | .sqlite => level = .serializable
  | _ => level ≠ .snapshot

/-- Refuses a level that transactions of a flavour cannot have. -/
def checkSupported (level : IsolationLevel) (flavour : Flavour) : Except AdapterError Unit :=
  if level.isSupported flavour then .ok ()
  else .error (.generic s!"Invalid isolation level `{level.sql}` for {flavour.dialectName}")

/-- The statement that sets a level, where there is one. -/
def setStatement (level : IsolationLevel) : Flavour → Option String
  | .sqlite => none
  | _ => some s!"SET TRANSACTION ISOLATION LEVEL {level.sql}"

end IsolationLevel

end RelationalQuery
