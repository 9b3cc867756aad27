import RelationalQuery.Adapter.ResultSet
import RelationalQuery.Calendar.Reader
import RelationalQuery.Execute.Error

/-!
# Coercion of result sets

Databases without a type for dates send them as text, and those without truth values send `0` and
`1`. The declared types of the columns say what is meant; everything else is left as it arrives.
-/

namespace RelationalQuery.Execute

/-- Whether cells of a column type are moments. -/
def isMomentType : ColumnType → Bool
  | .date => true
  | .dateTime => true
  | _ => false

/-- A cell as its column declares it. -/
def coerceCell (column : String) (type : Option ColumnType) (cell : Value) :
    Except ExecutionError Value :=
  match type, cell with
  | some declared, .text s =>
    if isMomentType declared then
      match Calendar.lenient? s with
      | some moment => .ok (.moment moment)
      | none => .error (.conversion column s!"`{s}` is not an ISO 8601 date")
    else .ok (.text s)
  | some .boolean, .int n => .ok (.bool (n != 0))
  | _, value => .ok value

/-- A row as its columns declare it. Cells beyond the names belong to a column without a name, and
those beyond the types are left as they are. -/
def coerceRow : List String → List ColumnType → Row → Except ExecutionError Row
  | _, _, [] => .ok []
  | names, types, cell :: rest => do
    let first ← coerceCell (names.headD "") types.head? cell
    return first :: (← coerceRow names.tail types.tail rest)

/-- A result set as its columns declare it. The first cell that cannot be read is reported. -/
def coerce (r : ResultSet) : Except ExecutionError ResultSet := do
  return { r with rows := ← r.rows.mapM (coerceRow r.names r.types) }

end RelationalQuery.Execute
