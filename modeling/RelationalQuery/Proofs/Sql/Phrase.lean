import RelationalQuery.Proofs.Sql.Scan
import RelationalQuery.Sql.Select
import RelationalQuery.Sql.Write

/-!
# The words of statements

Between names and values a statement has only the words of a fixed list and the numbers of its
limits. A phrase is plain, so a scan for placeholders passes over it, and it never starts with a
digit, so it may stand right behind a numbered placeholder.
-/

namespace RelationalQuery

open Sql

/-! ## Phrases -/

/-- The aggregate functions. -/
def aggregateFunctions : List String := ["COUNT", "AVG", "SUM", "MIN", "MAX"]

/-- The words of all dialects that may stand behind a letter or digit and before one. -/
def joints : List String :=
  [" AS ", ".", " = ", " INNER JOIN ", " ON ", " AND ", " OR ", " <> ", " < ", " <= ", " > ", " >= ",
    " LIKE ", " NOT IN (", " IN (", ",", ")", "(", " WHERE ", " ORDER BY ", ", ", " FROM ",
    "(SELECT ", "*", ".*", " ", " GROUP BY ", "() VALUES ()", ") VALUES ", " (",
    " ON DUPLICATE KEY UPDATE ", " ON CONFLICT (", ") DO ", " SET ", ") VALUES ("]

/-- The words of all dialects that end with a letter or digit, but do not start with one. -/
def endings : List String :=
  [" IS NOT NULL", " IS NULL", " ASC", " DESC", " LIMIT 1", " ON CONFLICT DO NOTHING"]

/-- The words of all dialects that start with a letter. -/
def openings : List String :=
  ["NOT (", "EXISTS (SELECT 1 FROM ", "NOT EXISTS (SELECT 1 FROM ", "COUNT(*)", "COUNT(", "AVG(",
    "SUM(", "MIN(", "MAX(", "SELECT * FROM ", "LEFT JOIN ", "SELECT ", "INSERT INTO ",
    "INSERT IGNORE INTO ", "INSERT OR IGNORE INTO ", "DEFAULT VALUES", "NOTHING", "UPDATE SET ",
    "UPDATE ", "DELETE FROM "]

/-- The words of all dialects. -/
def commonPhrases : List String := joints ++ endings ++ openings

/-- The words of a feature. -/
def featurePhrases : Feature → List String
  | .returning => [" RETURNING *"]
  | .insensitiveSearch => [" ILIKE "]
  | .filteredAggregates => ["COUNT(*) FILTER (WHERE "]
  | .nullsPlace => [" NULLS FIRST", " NULLS LAST"]

/-- The words that may stand between the names and values of a statement. -/
inductive IsPhrase (d : Dialect) : String → Prop
  | common {words : String} (h : words ∈ commonPhrases) : IsPhrase d words
  | feature {words : String} (f : Feature) (has : d.has f) (h : words ∈ featurePhrases f) :
    IsPhrase d words
  | limit (take : Int64) : IsPhrase d (" LIMIT " ++ integerText take)
  | offset (skip : Int64) : IsPhrase d (" OFFSET " ++ integerText skip)
  | page (take skip : Int64) :
    IsPhrase d (" LIMIT " ++ integerText take ++ " OFFSET " ++ integerText skip)
  | unlimited {limit : String} (h : d.unlimited = some limit) (skip : Int64) :
    IsPhrase d (" LIMIT " ++ limit ++ " OFFSET " ++ integerText skip)

/-- The conditions that always hold or never do. -/
def constants : List String := ["1=1", "1=0"]

/-! ## Words side by side -/

/-- Whether a character belongs to a word or a number. -/
def isWordChar (c : Char) : Bool := c.isAlphanum

/-- Whether a text starts with a letter or digit. -/
def startsInWord (words : String) : Bool := words.toList.head?.any isWordChar

/-- Whether a text ends with a letter or digit, or leaves the end to what stands before it. -/
def endsInWord (words : String) : Bool := words.toList.getLast?.all isWordChar

/-- Joints neither start nor end with a letter or digit. -/
theorem joints_apart : ∀ words ∈ joints, startsInWord words = false ∧ endsInWord words = false := by
  decide +kernel

/-- Endings do not start with a letter or digit. -/
theorem endings_apart : ∀ words ∈ endings, startsInWord words = false := by
  decide +kernel

/-- A text that starts with another one starts apart if that one does, and is not empty. -/
theorem startsInWord_append {a b : String} (h : a.toList.head?.any (!isWordChar ·)) :
    startsInWord (a ++ b) = false := by
  rw [startsInWord, String.toList_append]
  cases htext : a.toList with
  | nil => rw [htext] at h; cases h
  | cons c text => rw [htext] at h; simpa using h

/-! ## Plain words -/

/-- The words of all dialects are plain, and none starts with a digit. -/
theorem commonPhrases_plain : ∀ words ∈ commonPhrases,
    words.toList.all isPlain ∧ words.toList.head?.any (!Text.isDigit ·) := by
  decide +kernel

/-- The words of a feature are plain, and none starts with a digit. -/
theorem featurePhrases_plain (f : Feature) : ∀ words ∈ featurePhrases f,
    words.toList.all isPlain ∧ words.toList.head?.any (!Text.isDigit ·) := by
  cases f <;> decide +kernel

/-- The text of an integer is plain. -/
theorem all_isPlain_integerText (n : Int64) : (integerText n).toList.all isPlain := by
  have hdigits (m : Nat) : (toString m).toList.all isPlain := by
    have h := all_isDigit_toString m
    rw [List.all_eq_true] at h ⊢
    exact fun c hc => isPlain_of_isDigit (h c hc)
  rw [integerText]
  cases n.toInt with
  | ofNat m => exact hdigits m
  | negSucc m =>
    have htext : (toString (Int.negSucc m)).toList = '-' :: (toString (m + 1)).toList :=
      String.toList_append
    rw [htext, List.all_cons, hdigits]
    rfl

/-- Phrases are plain. -/
theorem all_isPlain_of_isPhrase {d : Dialect} {words : String} (h : IsPhrase d words) :
    words.toList.all isPlain := by
  have happend {a b : String} (ha : a.toList.all isPlain) (hb : b.toList.all isPlain) :
      (a ++ b).toList.all isPlain := by
    rw [String.toList_append, List.all_append, ha, hb]
    rfl
  cases h with
  | common h => exact (commonPhrases_plain words h).1
  | feature f _ h => exact (featurePhrases_plain f words h).1
  | limit take => exact happend (by decide) (all_isPlain_integerText take)
  | offset skip => exact happend (by decide) (all_isPlain_integerText skip)
  | page take skip =>
    exact happend (happend (happend (by decide) (all_isPlain_integerText take)) (by decide))
      (all_isPlain_integerText skip)
  | unlimited hlimit skip =>
    refine happend (happend (happend (by decide) ?_) (by decide)) (all_isPlain_integerText skip)
    cases d <;> simp only [Dialect.unlimited, Option.some.injEq, reduceCtorEq] at hlimit
    · subst hlimit; decide
    · subst hlimit; decide

/-- No phrase starts with a digit. -/
theorem head_isPhrase {d : Dialect} {words : String} (h : IsPhrase d words) (rest : List Char) :
    (words.toList ++ rest).head?.any Text.isDigit = false := by
  have hfirst {text : String} (hne : text.toList.head?.any (!Text.isDigit ·)) :
      (text.toList ++ rest).head?.any Text.isDigit = false := by
    cases htext : text.toList with
    | nil => rw [htext] at hne; exact absurd hne (by decide)
    | cons c text => rw [htext] at hne; simpa using hne
  have happend {a b : String} (ha : a.toList.head?.any (!Text.isDigit ·)) :
      (a ++ b).toList.head?.any (!Text.isDigit ·) := by
    rw [String.toList_append]
    cases htext : a.toList with
    | nil => rw [htext] at ha; exact absurd ha (by decide)
    | cons c text => rw [htext] at ha; simpa using ha
  cases h with
  | common h => exact hfirst (commonPhrases_plain words h).2
  | feature f _ h => exact hfirst (featurePhrases_plain f words h).2
  | limit => exact hfirst (happend (by decide))
  | offset => exact hfirst (happend (by decide))
  | page => exact hfirst (happend (happend (happend (by decide))))
  | unlimited => exact hfirst (happend (happend (happend (by decide))))

end RelationalQuery
