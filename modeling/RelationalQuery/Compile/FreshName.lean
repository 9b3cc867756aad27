/-!
# Fresh names

Subqueries name their tables so that no name of the statement around them is hidden. A name that is
already used gets the first free number.
-/

namespace RelationalQuery.Compile

/-- The candidates for a name: the name itself, then the name with numbers from one on. -/
def candidate (base : String) (n : Nat) : String := if n = 0 then base else s!"{base}_{n}"

/-- The first candidate that is not used. Among one more candidates than there are used names one is
always free. -/
def freshName (used : List String) (base : String) : String :=
  match (List.range (used.length + 1)).find? fun n => !used.contains (candidate base n) with
  | some n => candidate base n
  | none => base

end RelationalQuery.Compile
