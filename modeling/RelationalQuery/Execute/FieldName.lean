import RelationalQuery.Text.Words

/-!
# Field names of columns

Records hold the cells of a row under the names of fields. A column is named in snake case as a
rule, and its field in camel case.
-/

namespace RelationalQuery.Execute

/-- The field name of a column. Underscores at the beginning stay, and a name without others is left
as it is. -/
def fieldNameChars (column : List Char) : List Char :=
  let rest := column.dropWhile (· == '_')
  if rest.contains '_' then column.takeWhile (· == '_') ++ Text.camelChars rest else column

/-- The field name of a column, `createdAt` for `created_at`. -/
def fieldName (column : String) : String := String.ofList (fieldNameChars column.toList)

end RelationalQuery.Execute
