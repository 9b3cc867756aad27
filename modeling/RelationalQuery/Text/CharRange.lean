/-!
# Ranges of characters

A property of characters is given by a table: closed ranges of code points, in increasing order and
with a gap after each. All tables are those of Unicode 17.
-/

namespace RelationalQuery.Text

/-- Closed ranges of code points. -/
abbrev CharRanges := List (Nat × Nat)

namespace CharRanges

/-- Whether one of the ranges holds a character. -/
def holds (ranges : CharRanges) (c : Char) : Bool :=
  ranges.any fun range => range.1 ≤ c.toNat && c.toNat ≤ range.2

/-- Whether the ranges are in increasing order, with a gap after each. -/
def isOrdered : CharRanges → Bool
  | [] => true
  | [range] => range.1 ≤ range.2
  | range :: next :: rest =>
    range.1 ≤ range.2 && range.2 + 1 < next.1 && isOrdered (next :: rest)

end CharRanges

end RelationalQuery.Text
