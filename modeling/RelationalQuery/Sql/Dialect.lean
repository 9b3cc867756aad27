import RelationalQuery.Text.Blank

/-!
# Dialects

The dialects of SQL that statements are written in, and where they differ: quotes, placeholders, the
words of an insert that gives way to rows that are already there, and optional features.
-/

namespace RelationalQuery

/-- A dialect of SQL. -/
inductive Dialect
  | postgres
  | mysql
  | sqlite
  /-- Every database that is not known: standard quotes and no optional feature. -/
  | generic
  deriving DecidableEq, Repr

/-- A feature that a dialect may have. -/
inductive Feature
  /-- A write may return the rows that it wrote. -/
  | returning
  /-- Text searches without regard to case. -/
  | insensitiveSearch
  /-- Aggregates over the rows that pass a filter. -/
  | filteredAggregates
  /-- Sorts may place nulls first or last. -/
  | nullsPlace
  deriving DecidableEq, Repr

namespace Dialect

/-- The dialect with this name, in any case and with white space around it. -/
def ofName (name : String) : Dialect :=
  let plain := Text.asciiLower (Text.trim name)
  if plain = "postgresql" ∨ plain = "postgres" ∨ plain = "supabase" then postgres
  else if plain = "mysql" then mysql
  else if plain = "sqlite" then sqlite
  else generic

/-- The name of a dialect. -/
def name : Dialect → String
  | postgres => "postgresql"
  | mysql => "mysql"
  | sqlite => "sqlite"
  | generic => "generic"

/-- Whether the dialect has a feature. One dialect has them all, the others have none. -/
def has : Dialect → Feature → Bool
  | postgres, _ => true
  | _, _ => false

/-- The character around names. -/
def quoteChar : Dialect → Char
  | mysql => '\x60'
  | sqlite => '\x60'
  | postgres => '"'
  | generic => '"'

/-- A name in quotes, where each quote of its own is doubled. -/
def quoteChars (d : Dialect) (name : List Char) : List Char :=
  d.quoteChar :: (name.flatMap (fun c => if c = d.quoteChar then [c, c] else [c]) ++ [d.quoteChar])

/-- A name in quotes. -/
def quote (d : Dialect) (name : String) : String := String.ofList (d.quoteChars name.toList)

/-- A column of a table occurrence. -/
def qualified (d : Dialect) (table column : String) : String :=
  d.quote table ++ "." ++ d.quote column

/-- Whether placeholders carry the number of their argument. -/
def isNumbered : Dialect → Bool
  | postgres => true
  | _ => false

/-- The placeholder of an argument, counted from one. -/
def placeholder (d : Dialect) (number : Nat) : String :=
  if d.isNumbered then s!"${number}" else "?"

/-- The words that open an insert which gives way to rows that are already there. -/
def insertIgnore : Dialect → String
  | mysql => "INSERT IGNORE INTO"
  | sqlite => "INSERT OR IGNORE INTO"
  | postgres => "INSERT INTO"
  | generic => "INSERT INTO"

/-- The words that close such an insert. -/
def ignoreConflict : Dialect → Option String
  | postgres => some "ON CONFLICT DO NOTHING"
  | generic => some "ON CONFLICT DO NOTHING"
  | mysql => none
  | sqlite => none

/-- The limit that stands for none, where an offset needs one. -/
def unlimited : Dialect → Option String
  | mysql => some "18446744073709551615"
  | sqlite => some "-1"
  | postgres => none
  | generic => none

/-- What follows the table in an insert of a row without values. -/
def defaultValues : Dialect → String
  | mysql => "() VALUES ()"
  | _ => "DEFAULT VALUES"

end Dialect

end RelationalQuery
