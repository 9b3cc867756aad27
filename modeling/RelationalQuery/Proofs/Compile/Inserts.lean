import RelationalQuery.Proofs.Compile.Generated
import RelationalQuery.Proofs.Sql.Inscribed

/-!
# Inserts of several records

Records are inserted together with the columns of the first one. The others may name their fields in
another order and leave some out, so that what they put into a column is looked up by its field:
`cellOf` is the value there, and a null where the record lacks the field. `Inserts` says that a
statement binds each of these values in its own place, and `statement_createMany` that a query has
such a statement if and only if its records are `Tabular`.

One record can be inserted in two ways, by itself or as the only one of a list.
`statement_creatingMany_eq_iff` says when these come to the same.
-/

namespace RelationalQuery

/-! ## Rows of one width -/

section Rows

variable {α : Type} {rows : List (List α)} {k : Nat}

/-- Where all rows have the same width, a value stands at its column behind the rows in front. -/
theorem getElem?_flatten_of_width (h : ∀ row ∈ rows, row.length = k) {i j : Nat} (hj : j < k) :
    rows.flatten[i * k + j]? = rows[i]?.bind (·[j]?) := by
  induction rows generalizing i with
  | nil => rfl
  | cons first rest ih =>
    obtain ⟨hfirst, hrest⟩ := List.forall_mem_cons.mp h
    rw [List.flatten_cons]
    cases i with
    | zero =>
      have hinside : 0 * k + j < first.length := by omega
      rw [List.getElem?_append_left hinside, Nat.zero_mul, Nat.zero_add]
      rfl
    | succ i =>
      have hbehind : (i + 1) * k + j = first.length + (i * k + j) := by
        rw [Nat.succ_mul, hfirst]
        omega
      rw [hbehind, List.getElem?_append_right (Nat.le_add_right _ _), Nat.add_sub_cancel_left,
        ih hrest]
      rfl

theorem length_flatten_of_width (h : ∀ row ∈ rows, row.length = k) :
    rows.flatten.length = rows.length * k := by
  induction rows with
  | nil => exact (Nat.zero_mul k).symm
  | cons first rest ih =>
    obtain ⟨hfirst, hrest⟩ := List.forall_mem_cons.mp h
    rw [List.flatten_cons, List.length_append, hfirst, ih hrest, List.length_cons, Nat.succ_mul,
      Nat.add_comm]

end Rows

/-! ## Records -/

theorem Dict.mem_keys_iff {α : Type} {entries : Dict α} {key : String} :
    key ∈ entries.keys ↔ ∃ value, entries.get? key = some value := by
  induction entries with
  | nil => simp
  | cons entry rest ih =>
    obtain ⟨k, v⟩ := entry
    rw [Dict.keys_cons, List.mem_cons, Dict.get?_cons, ih]
    by_cases hk : k = key
    · simp [hk]
    · simp [hk, Ne.symm hk]

/-- Where no key is set twice, each entry is found under its key. -/
theorem Dict.get?_of_mem {α : Type} {entries : Dict α} {entry : String × α}
    (h : entries.keys.Nodup) (hentry : entry ∈ entries) :
    entries.get? entry.1 = some entry.2 := by
  induction entries with
  | nil => exact absurd hentry List.not_mem_nil
  | cons first rest ih =>
    rw [Dict.keys_cons, List.nodup_cons] at h
    rw [Dict.get?_cons]
    rcases List.mem_cons.mp hentry with rfl | hentry
    · exact if_pos rfl
    · have hother : first.1 ≠ entry.1 := fun heq => h.1 (heq ▸ List.mem_map_of_mem hentry)
      rw [if_neg hother, ih h.2 hentry]

/-- The records that data list: none without data, and one where a record stands alone. -/
inductive Lists : Option WriteData → List DataRecord → Prop
  | nothing : Lists none []
  | one (record : DataRecord) : Lists (some (.one record)) [record]
  | many (records : List DataRecord) : Lists (some (.many records)) records

namespace Compile

variable {c : Context} {model field : String} {fields : List String} {record : DataRecord}
  {records : List DataRecord} {data : Option WriteData} {position : Nat}

theorem recordsOf_of_lists (h : Lists data records) : recordsOf data = records := by
  cases h <;> rfl

/-- What a record puts into the column of a field: the value that it has there, and a null if it
lacks the field. -/
def cellOf (record : DataRecord) (field : String) : Value :=
  ((record.get? field).bind Datum.value?).getD .null

/-- The fields of the first of some records. -/
def fieldsOf (records : List DataRecord) : List String := (records.headD []).keys

/-- Whether a record has no other fields than these, and connects no rows. -/
structure Conforms (fields : List String) (record : DataRecord) : Prop where
  keys : ∀ key ∈ record.keys, key ∈ fields
  plain : ∀ key write, record.get? key ≠ some (.relation write)

/-- Whether records make up a table: there are some, and all of them fit the fields of the first. -/
structure Tabular (records : List DataRecord) : Prop where
  some_record : records ≠ []
  conforms : ∀ record ∈ records, Conforms (fieldsOf records) record

/-- The value of a field is there unless the field connects rows. -/
theorem fieldValue_eq_ok_iff {value : Value} :
    (match record.get? field with
      | some datum => plainValue model field datum
      | none => .ok .null) = .ok value ↔
      (∀ write, record.get? field ≠ some (.relation write)) ∧ value = cellOf record field := by
  rw [cellOf]
  cases record.get? field with
  | none => simp [eq_comm]
  | some datum => cases datum <;> simp [plainValue, Datum.value?, eq_comm]

/-- The values of fields are those of the columns, if none of the fields connects rows. -/
theorem fieldValues_eq_ok_iff {row : List Value} :
    (fields.mapM fun field =>
      match record.get? field with
      | some datum => plainValue model field datum
      | none => .ok .null) = .ok row ↔
      (∀ field ∈ fields, ∀ write, record.get? field ≠ some (.relation write)) ∧
        row = fields.map (cellOf record) :=
  mapM_eq_ok_iff fun _ _ => fieldValue_eq_ok_iff

/-- A record has a row of values if it fits the fields, and these are then looked up by name. -/
theorem rowValues_eq_ok_iff {row : List Value} :
    rowValues model fields position record = .ok row ↔
      Conforms fields record ∧ row = fields.map (cellOf record) := by
  rw [rowValues]
  split
  · next extra hextra =>
    refine iff_of_false (fun h => by cases h) ?_
    rintro ⟨hconforms, -⟩
    have hlisted := hconforms.keys extra (List.mem_of_find?_eq_some hextra)
    have hnot := List.find?_some hextra
    simp [hlisted] at hnot
  · next hnone =>
    -- no other key is left, so that a relation anywhere in the record stands under one of the fields
    have hkeys : ∀ key ∈ record.keys, key ∈ fields := by simpa using hnone
    refine fieldValues_eq_ok_iff.trans ?_
    refine and_congr_left fun _ => ⟨fun hplain => ⟨hkeys, fun key write hwrite => ?_⟩, ?_⟩
    · exact hplain key (hkeys key (Dict.mem_keys_iff.mpr ⟨_, hwrite⟩)) write hwrite
    · exact fun hconforms field _ => hconforms.plain field

/-- Records have rows of values if all of them fit the fields. -/
theorem allValues_eq_ok_iff {rows : List (List Value)} :
    allValues model fields position records = .ok rows ↔
      (∀ record ∈ records, Conforms fields record) ∧
        rows = records.map fun record => fields.map (cellOf record) := by
  induction records generalizing position rows with
  | nil => simp [allValues, eq_comm]
  | cons record rest ih =>
    rw [allValues, bind_eq_ok_iff, List.forall_mem_cons, List.map_cons]
    constructor
    · rintro ⟨row, hrow, h⟩
      obtain ⟨others, hothers, h⟩ := bind_eq_ok_iff.mp h
      obtain rfl := Except.ok.inj h
      obtain ⟨hconforms, rfl⟩ := rowValues_eq_ok_iff.mp hrow
      obtain ⟨hrest, rfl⟩ := ih.mp hothers
      exact ⟨⟨hconforms, hrest⟩, rfl⟩
    · rintro ⟨⟨hconforms, hrest⟩, rfl⟩
      refine ⟨_, rowValues_eq_ok_iff.mpr ⟨hconforms, rfl⟩, ?_⟩
      rw [ih.mpr ⟨hrest, rfl⟩]
      rfl

variable {q : Query}

/-- The insert of records: a column for each field of the first, and a row for each record. -/
def insertOf (c : Context) (model : String) (records : List DataRecord) : Sql.Write :=
  .insertRows (c.schema.tableOf model) ((fieldsOf records).map (c.schema.columnOf model))
    (records.map fun record => (fieldsOf records).map (cellOf record))

/-- Records can be inserted if and only if they make up a table. -/
theorem planCreateMany_eq_ok_iff {w : Sql.Write} (hdata : Lists q.arguments.data records) :
    planCreateMany c q = .ok w ↔ Tabular records ∧ w = insertOf c q.model records := by
  rw [planCreateMany, recordsOf_of_lists hdata]
  cases records with
  | nil => exact iff_of_false (fun h => by cases h) fun h => h.1.some_record rfl
  | cons first rest =>
    dsimp only
    rw [bind_eq_ok_iff]
    constructor
    · rintro ⟨rows, hrows, h⟩
      obtain rfl := Except.ok.inj h
      obtain ⟨hconforms, rfl⟩ := allValues_eq_ok_iff.mp hrows
      exact ⟨⟨List.cons_ne_nil _ _, hconforms⟩, rfl⟩
    · rintro ⟨htabular, rfl⟩
      exact ⟨_, allValues_eq_ok_iff.mpr ⟨htabular.conforms, rfl⟩, rfl⟩

end Compile

/-! ## Statements -/

namespace Compiler

open Compile

variable {k : Compiler} {q : Query} {records : List DataRecord}

/-- Whether a statement inserts records with the columns of the first one. -/
structure Inserts (k : Compiler) (model : String) (records : List DataRecord) (s : Statement) :
    Prop where
  /-- The columns are those of the first record's fields, in order, and for each record there is a
  tuple with a placeholder for each of them. -/
  text : s.sql =
    Sql.rowsText k.dialect (k.schema.tableOf model)
        ((fieldsOf records).map (k.schema.columnOf model))
        (records.mapIdx fun i _ => (fieldsOf records).mapIdx fun j _ =>
          k.dialect.placeholder (i * (fieldsOf records).length + j + 1)) ++
      Sql.returningText k.dialect
  length : s.args.length = records.length * (fieldsOf records).length
  /-- In its place stands what a record puts into the column of a field. -/
  cell {i j : Nat} {record : DataRecord} {field : String} (hrecord : records[i]? = some record)
    (hfield : (fieldsOf records)[j]? = some field) :
    s.args[i * (fieldsOf records).length + j]? = some (cellOf record field)
  /-- With its arguments in place of the placeholders, each tuple holds the values of its record. -/
  filled : ∃ f : Fragment, f.render k.dialect = (s.sql, s.args) ∧ ∀ write,
    f.filled k.dialect write = some
      (Sql.rowsText k.dialect (k.schema.tableOf model)
          ((fieldsOf records).map (k.schema.columnOf model))
          (records.map fun record => (fieldsOf records).map fun field =>
            write (cellOf record field)) ++
        Sql.returningText k.dialect)
  returned : s.returnsRows = k.dialect.has .returning

/-- The statement of an insert has the values of the records in their places. -/
theorem inserts_statement (k : Compiler) (model : String) (records : List DataRecord) :
    k.Inserts model records ((insertOf k.context model records).statement k.dialect) := by
  have hwidth : ∀ row ∈ records.map fun record => (fieldsOf records).map (cellOf record),
      row.length = (fieldsOf records).length := by
    intro row hrow
    obtain ⟨record, -, rfl⟩ := List.mem_map.mp hrow
    exact List.length_map _
  have hargs : ((insertOf k.context model records).statement k.dialect).args =
      (records.map fun record => (fieldsOf records).map (cellOf record)).flatten :=
    Sql.Write.args_of_asked rfl
  -- the text that is sent and the one with its arguments in place are two readings of this one
  have hfragment (write : Nat → Value → String) :
      Fragment.inscribed k.dialect write 0 ((insertOf k.context model records).fragment k.dialect) =
        Sql.rowsText k.dialect (k.schema.tableOf model)
            ((fieldsOf records).map (k.schema.columnOf model))
            (records.mapIdx fun i record => (fieldsOf records).mapIdx fun j field =>
              write (i * (fieldsOf records).length + j) (cellOf record field)) ++
          Sql.returningText k.dialect := by
    rw [insertOf, Sql.inscribed_insertRows hwidth, mapIdx_map]
    simp only [mapIdx_map, Nat.zero_add]
    rfl
  refine ⟨?_, ?_, ?_, ⟨_, rfl, fun write => ?_⟩, rfl⟩
  · rw [Sql.Write.sql_of_asked rfl, hfragment]
  · rw [hargs, length_flatten_of_width hwidth, List.length_map]
  · intro i j record field hrecord hfield
    have hj : j < (fieldsOf records).length := (List.getElem?_eq_some_iff.mp hfield).1
    rw [hargs, getElem?_flatten_of_width hwidth hj, List.getElem?_map, hrecord, Option.map_some,
      Option.bind_some, List.getElem?_map, hfield, Option.map_some]
  · rw [Sql.Write.filled_fragment, hfragment]
    simp only [mapIdx_const]

/-- A query that is planned as a write has the statement of the write, if its model is accepted. -/
theorem statement_of_write (planned : Except CompileError Sql.Write)
    (h : ∀ filtered, plan k.context filtered q = (do
      k.context.checkModel q.model
      return .write (← planned))) :
    k.statement q = (do
      k.context.checkModel q.model
      Sql.Write.statement k.dialect <$> planned) := by
  rw [statement, h]
  cases k.context.checkModel q.model with
  | error error => rfl
  | ok checked => cases planned <;> rfl

/-- Where it is known when the write is planned, and which it is, so it is of the statement. -/
theorem statement_eq_ok_iff_of_write {planned : Except CompileError Sql.Write} {possible : Prop}
    {w : Sql.Write}
    (h : k.statement q = (do
      k.context.checkModel q.model
      Sql.Write.statement k.dialect <$> planned))
    (hplanned : ∀ w', planned = .ok w' ↔ possible ∧ w' = w) (s : Statement) :
    k.statement q = .ok s ↔
      k.context.accepts q.model ∧ possible ∧ s = w.statement k.dialect := by
  rw [h, Context.checkModel]
  by_cases haccepts : k.context.accepts q.model
  · rw [if_pos haccepts, ok_bind, map_eq_ok_iff]
    constructor
    · rintro ⟨w', hw', rfl⟩
      obtain ⟨hpossible, rfl⟩ := (hplanned w').mp hw'
      exact ⟨haccepts, hpossible, rfl⟩
    · rintro ⟨-, hpossible, rfl⟩
      exact ⟨w, (hplanned w).mpr ⟨hpossible, rfl⟩, rfl⟩
  · rw [if_neg haccepts]
    exact iff_of_false (fun h => by cases h) fun h => haccepts h.1

/-- Records are inserted if and only if there are some, none has a field beside those of the first,
and none connects rows. The statement then has a column for each field of the first record and a
tuple for each record, which binds what the record holds under the name of the field, or a null if it
lacks the field. -/
theorem statement_createMany (haction : q.action = .createMany)
    (haccepts : k.context.accepts q.model) (hdata : Lists q.arguments.data records) :
    ((∃ s, k.statement q = .ok s) ↔ Tabular records) ∧
      ∀ s, k.statement q = .ok s → k.Inserts q.model records s := by
  have hwrite := statement_of_write (planCreateMany k.context q) fun filtered => by
    rw [plan, haction]
  have hstatement := statement_eq_ok_iff_of_write hwrite fun w => planCreateMany_eq_ok_iff hdata
  refine ⟨⟨?_, fun htabular => ⟨_, (hstatement _).mpr ⟨haccepts, htabular, rfl⟩⟩⟩, fun s hs => ?_⟩
  · rintro ⟨s, hs⟩
    exact ((hstatement s).mp hs).2.1
  · obtain ⟨-, -, rfl⟩ := (hstatement s).mp hs
    exact inserts_statement k q.model records

/-- A club with members, who have a column with another name than its field. -/
def club (d : Dialect) : Compiler :=
  { dialect := d
    schema := ⟨[("Member", { name := "Member", table := "members", fields :=
      [("id", { name := "id", column := "id", type := .int, isId := true }),
        ("fullName", { name := "fullName", column := "full_name", type := .string })] })]⟩ }

/-- The insert of some records. -/
def enrol (records : List DataRecord) : Query :=
  { model := "Member", action := .createMany, arguments := { data := some (.many records) } }

/-- The second of these names its fields in another order, the third leaves one out. -/
def newcomers : List DataRecord :=
  [[("id", .value (.int 1)), ("fullName", .value (.text "a"))],
    [("fullName", .value (.text "b")), ("id", .value (.int 2))],
    [("fullName", .value (.text "c"))]]

/-- Each newcomer is written down under the columns of the first. -/
theorem statement_enrol_newcomers :
    ∃ s, (club .postgres).statement (enrol newcomers) = .ok s ∧
      s.sql = "INSERT INTO \"members\" (\"id\",\"full_name\") VALUES ($1,$2),($3,$4),($5,$6) RETURNING *" ∧
      s.args = [.int 1, .text "a", .int 2, .text "b", .null, .text "c"] ∧
      (club .postgres).Inserts "Member" newcomers s := by
  have hstatement : (club .postgres).statement (enrol newcomers) = .ok _ := rfl
  exact ⟨_, hstatement, rfl, rfl, (statement_createMany rfl rfl (.many newcomers)).2 _ hstatement⟩

end Compiler

/-! ## One record -/

namespace Sql

variable {d : Dialect} {table : String} {columns values : List String}

/-- A row that is inserted by itself reads like the only one of several, unless it has no columns:
then only one dialect writes it in the same words. -/
theorem rowText_eq_rowsText_iff (h : values.length = columns.length) :
    rowText d "INSERT INTO" table columns values = rowsText d table columns [values] ↔
      columns ≠ [] ∨ d = .mysql := by
  have hwords : "INSERT INTO " = "INSERT INTO" ++ " " := rfl
  have hrows : rowsText d table columns [values] =
      "INSERT INTO" ++ " " ++ d.quote table ++ " " ++
        (listed (columns.map d.quote) ++ " VALUES " ++ listed values) := by
    simp only [rowsText, List.map_singleton, String.intercalate_singleton, hwords,
      String.append_assoc]
  rw [rowText, hrows, String.append_right_inj]
  cases columns with
  | nil =>
    obtain rfl := List.eq_nil_of_length_eq_zero h
    have hempty : listed [] ++ " VALUES " ++ listed [] = Dialect.mysql.defaultValues := rfl
    -- a list of no columns with a tuple of no values is just how that dialect writes the defaults
    rw [List.isEmpty_nil, if_pos rfl, List.map_nil, hempty]
    cases d <;> simp [Dialect.defaultValues]
  | cons column columns => exact iff_of_true rfl (.inl (List.cons_ne_nil _ _))

/-- The statement of one row, which binds its values in order. -/
theorem statement_insert_zip (d : Dialect) (table : String) {row : List Value}
    (h : row.length = columns.length) :
    (Write.insert table (columns.zip row)).statement d =
      { sql := rowText d "INSERT INTO" table columns (row.mapIdx fun j _ => d.placeholder (j + 1)) ++
          returningText d
        args := row
        returnsRows := d.has .returning } := by
  have hnames : (columns.zip row).map Prod.fst = columns := List.map_fst_zip (Nat.le_of_eq h.symm)
  have hvalues : (columns.zip row).map Prod.snd = row := List.map_snd_zip (Nat.le_of_eq h)
  refine Statement.Tagged.eq_of_parts rfl rfl ?_ ?_ rfl rfl rfl
  · have hplaces := mapIdx_map Prod.snd (fun j _ => d.placeholder (j + 1)) (columns.zip row)
    rw [hvalues] at hplaces
    rw [Write.sql_of_asked rfl, inscribed_insert, hnames, hplaces]
    simp only [Nat.zero_add]
  · rw [Write.args_of_asked rfl]
    exact hvalues

/-- A row is inserted in the same way by itself and as the only one of several, unless it has no
columns. -/
theorem statement_insertRows_eq_iff {row : List Value} (h : row.length = columns.length) :
    (Write.insertRows table columns [row]).statement d =
        (Write.insert table (columns.zip row)).statement d ↔ columns ≠ [] ∨ d = .mysql := by
  rw [statement_insert_zip d table h]
  have hseveral : ((Write.insertRows table columns [row]).statement d).sql =
      rowsText d table columns [row.mapIdx fun j _ => d.placeholder (j + 1)] ++
        returningText d := by
    rw [Write.sql_of_asked rfl, inscribed_insertRows (List.forall_mem_singleton.mpr h)]
    simp only [List.mapIdx_cons, List.mapIdx_nil, Nat.zero_mul, Nat.zero_add]
  have hwidth : (row.mapIdx fun j _ => d.placeholder (j + 1)).length = columns.length := by
    rw [List.length_mapIdx, h]
  have hsame : rowText d "INSERT INTO" table columns _ = rowsText d table columns [_] ↔ _ :=
    rowText_eq_rowsText_iff hwidth
  constructor
  · intro heq
    have htexts := congrArg Statement.sql heq
    rw [hseveral, String.append_left_inj] at htexts
    exact hsame.mp htexts.symm
  · intro hcolumns
    refine Statement.Tagged.eq_of_parts rfl rfl ?_ ?_ rfl rfl rfl
    · rw [hseveral, hsame.mpr hcolumns]
    · rw [Write.args_of_asked rfl]
      exact List.flatten_singleton

end Sql

/-- The query that creates one record. -/
def Query.creating (q : Query) (record : DataRecord) : Query :=
  { q with action := .create, arguments := { q.arguments with data := some (.one record) } }

/-- The query that creates the records of a list. -/
def Query.creatingMany (q : Query) (records : List DataRecord) : Query :=
  { q with action := .createMany, arguments := { q.arguments with data := some (.many records) } }

namespace Compile

variable {c : Context} {model : String} {record : DataRecord} {position : Nat}

/-- The values of a record, in its own order. -/
def plainValues (model : String) (record : DataRecord) : Except CompileError (List Value) :=
  record.mapM fun entry => plainValue model entry.1 entry.2

/-- As many values as fields. -/
theorem length_of_plainValues {values : List Value} (h : plainValues model record = .ok values) :
    values.length = record.keys.length := by
  rw [Dict.keys, List.length_map, length_of_mapM h]

/-- The assignments of a record are its values under the columns of its fields. -/
theorem assignmentsOf_eq (c : Context) (model : String) (record : DataRecord) :
    assignmentsOf c model record =
      (fun values => (record.keys.map (c.schema.columnOf model)).zip values) <$>
        plainValues model record := by
  induction record with
  | nil => rfl
  | cons entry rest ih =>
    rw [assignmentsOf] at ih
    rw [assignmentsOf, plainValues, List.mapM_cons, List.mapM_cons, ih, plainValues]
    cases plainValue model entry.1 entry.2 with
    | error error => rfl
    | ok value =>
      cases rest.mapM fun entry => plainValue model entry.1 entry.2 <;> rfl

/-- Under the fields of the record itself, the row of a record holds its values in order. -/
theorem rowValues_keys (h : record.keys.Nodup) :
    rowValues model record.keys position record = plainValues model record := by
  have hnone : record.keys.find? (fun key => !record.keys.contains key) = none := by
    simp
  have hfields {α : Type} (f : String → Except CompileError α) :
      record.keys.mapM f = (record.map fun entry => f entry.1).mapM id := by
    rw [List.mapM_map, Dict.keys, List.mapM_map]
    rfl
  have hentries : plainValues model record =
      (record.map fun entry => plainValue model entry.1 entry.2).mapM id := by
    rw [List.mapM_map]
    rfl
  rw [rowValues, hnone]
  show List.mapM _ record.keys = _
  rw [hfields, hentries]
  refine congrArg (List.mapM id) (List.map_congr_left fun entry hentry => ?_)
  rw [Dict.get?_of_mem h hentry]

end Compile

namespace Compiler

open Compile

variable {k : Compiler} {record : DataRecord}

/-- The statement of a record that is created by itself. -/
theorem statement_creating (k : Compiler) (q : Query) (record : DataRecord) :
    k.statement (q.creating record) = (do
      k.context.checkModel q.model
      (fun values => (Sql.Write.insert (k.schema.tableOf q.model)
        ((record.keys.map (k.schema.columnOf q.model)).zip values)).statement k.dialect) <$>
          plainValues q.model record) := by
  have hplan : planCreate k.context (q.creating record) =
      (fun values => Sql.Write.insert (k.schema.tableOf q.model)
        ((record.keys.map (k.schema.columnOf q.model)).zip values)) <$>
          plainValues q.model record := by
    rw [planCreate, Query.creating]
    dsimp only
    rw [assignmentsOf_eq]
    cases plainValues q.model record <;> rfl
  rw [statement_of_write (planCreate k.context (q.creating record)) fun _ => rfl, hplan, ← comp_map]
  rfl

/-- The statement of a record that is created as the only one of a list. -/
theorem statement_creatingMany (k : Compiler) (q : Query) (h : record.keys.Nodup) :
    k.statement (q.creatingMany [record]) = (do
      k.context.checkModel q.model
      (fun values => (Sql.Write.insertRows (k.schema.tableOf q.model)
        (record.keys.map (k.schema.columnOf q.model)) [values]).statement k.dialect) <$>
          plainValues q.model record) := by
  have hplan : planCreateMany k.context (q.creatingMany [record]) =
      (fun values => Sql.Write.insertRows (k.schema.tableOf q.model)
        (record.keys.map (k.schema.columnOf q.model)) [values]) <$>
          plainValues q.model record := by
    rw [planCreateMany, Query.creatingMany]
    dsimp only [recordsOf]
    rw [allValues, rowValues_keys h]
    cases plainValues q.model record <;> rfl
  rw [statement_of_write (planCreateMany k.context (q.creatingMany [record])) fun _ => rfl, hplan,
    ← comp_map]
  rfl

/-- One record is created in the same way by itself and as the only one of a list: with the same
error or the same statement. The exception is a record without fields, for which the list has words
that only one dialect uses for a row of defaults. -/
theorem statement_creatingMany_eq_iff (k : Compiler) (q : Query) (h : record.keys.Nodup) :
    k.statement (q.creatingMany [record]) = k.statement (q.creating record) ↔
      record ≠ [] ∨ k.dialect = .mysql ∨ ¬ k.context.accepts q.model := by
  rw [statement_creatingMany k q h, statement_creating, Context.checkModel]
  by_cases haccepts : k.context.accepts q.model
  · rw [if_pos haccepts, ok_bind, ok_bind]
    cases hvalues : plainValues q.model record with
    | error error =>
      rw [map_error, map_error]
      refine iff_of_true rfl (.inl ?_)
      rintro rfl
      cases hvalues
    | ok values =>
      have hlength : values.length = (record.keys.map (k.schema.columnOf q.model)).length := by
        rw [length_of_plainValues hvalues, List.length_map]
      have hcolumns : record.keys.map (k.schema.columnOf q.model) ≠ [] ↔ record ≠ [] := by
        rw [Ne, List.map_eq_nil_iff, Dict.keys, List.map_eq_nil_iff]
      show Except.ok _ = Except.ok _ ↔ _
      rw [Except.ok.injEq, Sql.statement_insertRows_eq_iff hlength, hcolumns]
      simp [haccepts]
  · rw [if_neg haccepts, error_bind, error_bind]
    exact iff_of_true rfl (.inr (.inr haccepts))

/-- A member who joins alone is written down in the same way as a list of one. -/
theorem statement_enrol_singleton :
    (club .sqlite).statement ((enrol []).creatingMany [[("fullName", .value (.text "a"))]]) =
      (club .sqlite).statement ((enrol []).creating [("fullName", .value (.text "a"))]) := by
  have hkeys : (Dict.keys [("fullName", Datum.value (.text "a"))]).Nodup :=
    List.pairwise_singleton _ _
  exact (statement_creatingMany_eq_iff (club .sqlite) (enrol []) hkeys).mpr
    (.inl (List.cons_ne_nil _ _))

/-- A row of defaults has words of its own, which the list of one does not use. -/
theorem statement_enrol_defaults :
    (club .postgres).statement ((enrol []).creating []) =
        .ok { sql := "INSERT INTO \"members\" DEFAULT VALUES RETURNING *", args := [],
              returnsRows := true } ∧
      (club .postgres).statement ((enrol []).creatingMany [[]]) =
        .ok { sql := "INSERT INTO \"members\" () VALUES () RETURNING *", args := [],
              returnsRows := true } ∧
      (club .postgres).statement ((enrol []).creatingMany [[]]) ≠
        (club .postgres).statement ((enrol []).creating []) := by
  have hone : (club .postgres).statement ((enrol []).creating []) =
      .ok { sql := "INSERT INTO \"members\" DEFAULT VALUES RETURNING *", args := [],
            returnsRows := true } := rfl
  have hlisted : (club .postgres).statement ((enrol []).creatingMany [[]]) =
      .ok { sql := "INSERT INTO \"members\" () VALUES () RETURNING *", args := [],
            returnsRows := true } := rfl
  refine ⟨hone, hlisted, fun hsame => ?_⟩
  rw [hone, hlisted] at hsame
  exact absurd (congrArg Statement.sql (Except.ok.inj hsame)) (by decide)

end Compiler

end RelationalQuery
