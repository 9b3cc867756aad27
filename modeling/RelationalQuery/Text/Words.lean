/-!
# Words of a name

A name such as `XMLHttp_request` is read as a list of words: every character that is not an ASCII
letter or digit separates words, and so does a change of case inside a run of letters and digits.

## Shape of a change of case

* A lower-case letter before an upper-case one ends a word: `foo|Bar`. Digits in between keep the
  case that came before them: `foo1|Bar`.
* In a run of upper-case letters the last one starts a word if a lower-case letter follows it:
  `XML|Http`.

`camel` and `snake` write the words back in one of the two usual styles.
-/

namespace RelationalQuery.Text

/-- The case of the last letter of the word being read. -/
inductive LetterCase
  | unknown
  | lower
  | upper
  deriving DecidableEq, Repr

namespace LetterCase

/-- The case after reading `c`: digits leave it as it is. -/
def next (sofar : LetterCase) (c : Char) : LetterCase :=
  if c.isLower then lower else if c.isUpper then upper else sofar

end LetterCase

/-- The maximal runs of ASCII letters and digits, with empty runs between adjacent separators. -/
def runs : List Char → List (List Char)
  | [] => [[]]
  | c :: rest =>
    if c.isAlphanum then
      match runs rest with
      | run :: others => (c :: run) :: others
      | [] => [[c]]
    else [] :: runs rest

/-- The words of one run. `word` is the beginning of the current word, reversed, and `sofar` the
case of its last letter. -/
def caseWords (word : List Char) (sofar : LetterCase) : List Char → List (List Char)
  | [] => if word.isEmpty then [] else [word.reverse]
  | [c] => [(c :: word).reverse]
  | c :: d :: rest =>
    if sofar.next c = .lower ∧ d.isUpper then
      (c :: word).reverse :: caseWords [] .unknown (d :: rest)
    else if sofar = .upper ∧ c.isUpper ∧ d.isLower then
      word.reverse :: caseWords [c] .unknown (d :: rest)
    else caseWords (c :: word) (sofar.next c) (d :: rest)

/-- The words of a name, in order. -/
def words (name : List Char) : List (List Char) :=
  (runs name).flatMap (caseWords [] .unknown)

/-- A word with its first letter in upper case and the others in lower case. -/
def capitalize : List Char → List Char
  | [] => []
  | c :: rest => c.toUpper :: rest.map Char.toLower

/-- Camel case, `createdAt` for `created_at`: the first word in lower case, each other one with a
capital first. -/
def camelChars (name : List Char) : List Char :=
  match words name with
  | [] => []
  | first :: others => first.map Char.toLower ++ others.flatMap capitalize

/-- The name in camel case. -/
def camel (name : String) : String := String.ofList (camelChars name.toList)

/-- Snake case, `order_item` for `OrderItem`: all words in lower case, with underscores between
them. -/
def snake (name : String) : String :=
  String.ofList ((words name.toList).map (·.map Char.toLower) |>.intersperse ['_']).flatten

example : camel "XMLHttp_request" = "xmlHttpRequest" := by decide +kernel
example : camel "iOS_device" = "iOsDevice" := by decide +kernel
example : snake "OrderItem2Go" = "order_item2_go" := by decide +kernel

end RelationalQuery.Text
