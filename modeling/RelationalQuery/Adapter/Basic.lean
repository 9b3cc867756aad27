import RelationalQuery.Adapter.Flavour
import RelationalQuery.Adapter.ResultSet
import RelationalQuery.Sql.Statement

/-!
# Adapters

An `Adapter` stands for a driver and the database behind it. What it answers to a call may depend on
all calls that were made before, so an adapter is a function of that history; nothing else about the
database is assumed.
-/

namespace RelationalQuery

/-- Where a statement is sent: over the connection itself, or in the open transaction. -/
inductive Channel
  | connection
  | transaction
  deriving DecidableEq, Repr

/-- A call on an adapter. -/
inductive Call
  /-- A statement that returns rows. -/
  | query (channel : Channel) (statement : Statement)
  /-- A statement that returns the number of rows it changed. -/
  | execute (channel : Channel) (statement : Statement)
  | begin (level : Option IsolationLevel)
  | commit
  | rollback
  deriving Repr

/-- The calls that were made so far, the oldest first. -/
abbrev History := List Call

/-- A driver with its database: what it answers to each call after a history. -/
structure Adapter where
  flavour : Flavour
  query : History → Channel → Statement → Except AdapterError ResultSet
  execute : History → Channel → Statement → Except AdapterError Nat
  begin : History → Option IsolationLevel → Except AdapterError Unit
  commit : History → Except AdapterError Unit
  rollback : History → Except AdapterError Unit

end RelationalQuery
