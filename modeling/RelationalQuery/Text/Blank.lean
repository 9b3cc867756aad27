/-!
# White space and ASCII letters

Names and numbers that people write may be surrounded by white space, which means every character of
the Unicode property `White_Space`. Letters that are compared without regard to case are compared by
their ASCII letters alone.
-/

namespace RelationalQuery.Text

/-- The Unicode property `White_Space`. -/
def isBlank (c : Char) : Bool :=
  let n := c.toNat
  (0x09 ≤ n && n ≤ 0x0d) || n == 0x20 || n == 0x85 || n == 0xa0 || n == 0x1680 ||
    (0x2000 ≤ n && n ≤ 0x200a) || n == 0x2028 || n == 0x2029 || n == 0x202f || n == 0x205f ||
    n == 0x3000

/-- The characters from the first one that is not blank on. -/
def trimLeft (cs : List Char) : List Char := cs.dropWhile isBlank

/-- The characters up to the last one that is not blank. -/
def trimRight (cs : List Char) : List Char := (cs.reverse.dropWhile isBlank).reverse

/-- The characters without the blank ones at both ends. -/
def trimChars (cs : List Char) : List Char := trimRight (trimLeft cs)

/-- The text without the white space at both ends. -/
def trim (text : String) : String := String.ofList (trimChars text.toList)

/-- An ASCII digit. -/
def isDigit (c : Char) : Bool := '0' ≤ c && c ≤ '9'

/-- The number that an ASCII digit stands for. -/
def digit (c : Char) : Nat := c.toNat - 48

/-- The number that a run of ASCII digits stands for. -/
def numeral (cs : List Char) : Nat := cs.foldl (fun n c => 10 * n + digit c) 0

/-- The text with its ASCII letters in lower case. -/
def asciiLower (text : String) : String := String.ofList (text.toList.map Char.toLower)

/-- Whether two texts differ at most in the case of their ASCII letters. -/
def sameLetters (a b : String) : Bool := asciiLower a == asciiLower b

end RelationalQuery.Text
