import RelationalQuery.Proofs.Sql.Binding

/-!
# Texts with values written by their place

`Fragment.inscribed` is the text of a fragment in which a rule says how each value is written, by
the value itself and by how many values stand in front of it. A statement that binds nothing but data
has two texts of this kind: the one that is sent, where the rule gives placeholders
(`renderFrom_eq_inscribed`), and the one with its arguments put in place of them
(`spelled_eq_inscribed`). What an inscribed text looks like is therefore shown once, and says which
value is bound by which placeholder.

## Shape of the places

Fragments that are joined take up places one after the other. Where all of them have as many values,
the place of a value is found by a multiplication (`inscribed_join`), as in the tuples of an insert.
-/

namespace RelationalQuery

/-! ## Entries and their places -/

section Places

variable {α β γ : Type}

theorem mapIdx_const (f : α → β) (entries : List α) :
    entries.mapIdx (fun _ entry => f entry) = entries.map f :=
  List.mapIdx_eq_iff.mpr fun _ => List.getElem?_map

theorem mapIdx_map (f : α → β) (g : Nat → β → γ) (entries : List α) :
    (entries.map f).mapIdx g = entries.mapIdx fun i entry => g i (f entry) :=
  List.mapIdx_eq_iff.mpr fun i => by
    rw [List.getElem?_mapIdx, List.getElem?_map, Option.map_map]
    rfl

end Places

namespace Fragment

variable {d : Dialect} {write : Nat → Value → String} {place : Nat}

/-- The text of a fragment whose values are written by `write`, the first of them at `place`. -/
def inscribed (d : Dialect) (write : Nat → Value → String) (place : Nat) : Fragment → String
  | [] => ""
  | .text words :: rest => words ++ inscribed d write place rest
  | .name identifier :: rest => d.quote identifier ++ inscribed d write place rest
  | .param _ value :: rest => write place value ++ inscribed d write (place + 1) rest

@[simp] theorem inscribed_nil : inscribed d write place [] = "" := rfl

@[simp] theorem inscribed_ofText (words : String) :
    inscribed d write place (ofText words) = words := String.append_empty

@[simp] theorem inscribed_ofName (identifier : String) :
    inscribed d write place (ofName identifier) = d.quote identifier := String.append_empty

@[simp] theorem inscribed_ofParam (group : ParamGroup) (value : Value) :
    inscribed d write place (ofParam group value) = write place value := String.append_empty

/-- What follows has its places behind those of what stands in front. -/
@[simp] theorem inscribed_append (f g : Fragment) :
    inscribed d write place (f ++ g) =
      inscribed d write place f ++ inscribed d write (place + f.params.length) g := by
  induction f generalizing place with
  | nil => exact String.empty_append.symm
  | cons piece rest ih =>
    cases piece with
    | text words => rw [List.cons_append, inscribed, ih, inscribed, params, String.append_assoc]
    | name identifier =>
      rw [List.cons_append, inscribed, ih, inscribed, params, String.append_assoc]
    | param group value =>
      rw [List.cons_append, inscribed, ih, inscribed, params, String.append_assoc,
        List.length_cons, Nat.add_right_comm, Nat.add_assoc place]

@[simp] theorem inscribed_wrap (opening : String) (inner : Fragment) (closing : String) :
    inscribed d write place (wrap opening inner closing) =
      opening ++ inscribed d write place inner ++ closing := by
  rw [wrap, inscribed, inscribed_append, String.append_assoc]
  exact congrArg _ (congrArg _ (inscribed_ofText closing))

/-- Joined fragments with as many values each take up places one after the other. -/
theorem inscribed_join {α : Type} {f : α → Fragment} {k : Nat} {entries : List α}
    (h : ∀ entry ∈ entries, (f entry).params.length = k) (separator : String) :
    inscribed d write place (join separator (entries.map f)) =
      separator.intercalate
        (entries.mapIdx fun i entry => inscribed d write (place + i * k) (f entry)) := by
  induction entries generalizing place with
  | nil => rfl
  | cons first rest ih =>
    obtain ⟨hfirst, hrest⟩ := List.forall_mem_cons.mp h
    have hplace (i : Nat) : place + k + i * k = place + (i + 1) * k := by
      rw [Nat.succ_mul, Nat.add_assoc, Nat.add_comm k]
    rw [List.mapIdx_cons, Nat.zero_mul, Nat.add_zero]
    cases rest with
    | nil => exact String.intercalate_singleton.symm
    | cons second rest =>
      have hjoin : join separator ((first :: second :: rest).map f) =
          f first ++ .text separator :: join separator ((second :: rest).map f) := rfl
      rw [hjoin, inscribed_append, inscribed, hfirst, ih hrest,
        String.intercalate_cons_of_ne_nil (by simp), String.append_assoc]
      simp only [hplace]

/-! ## The texts of a statement -/

/-- Where everything that is bound is data, the placeholder of a value is that of its place. -/
theorem renderFrom_eq_inscribed {params before : List (ParamGroup × Value)} {f : Fragment}
    (hbefore : ∀ param ∈ before, param.1 = .data) (hf : ∀ param ∈ f.params, param.1 = .data) :
    renderFrom d params before f =
      inscribed d (fun place _ => d.placeholder (place + 1)) before.length f := by
  induction f generalizing before with
  | nil => rfl
  | cons piece rest ih =>
    cases piece with
    | text words => rw [renderFrom, inscribed, ih hbefore hf]
    | name identifier => rw [renderFrom, inscribed, ih hbefore hf]
    | param group value =>
      obtain ⟨hgroup, hrest⟩ := List.forall_mem_cons.mp hf
      dsimp only at hgroup
      subst hgroup
      have hnumber : number d.isNumbered params before .data = before.length + 1 := by
        have hall : before.filter (·.1 = .data) = before :=
          List.filter_eq_self.mpr fun param hparam => decide_eq_true (hbefore param hparam)
        have hnone : params.filter (·.1.rank < ParamGroup.data.rank) = [] :=
          List.filter_eq_nil_iff.mpr fun param _ => by simp [ParamGroup.rank]
        rw [number, hall, hnone]
        split
        · rw [List.length_nil, Nat.zero_add]
        · rfl
      have hnext : ∀ param ∈ before ++ [(ParamGroup.data, value)], param.1 = .data :=
        List.forall_mem_append.mpr ⟨hbefore, List.forall_mem_singleton.mpr rfl⟩
      rw [renderFrom, inscribed, ih hnext hrest, hnumber, List.length_append,
        List.length_singleton]

/-- Values that are all data are bound in order. -/
theorem arguments_data (numbered : Bool) (values : List Value) :
    arguments numbered (values.map (ParamGroup.data, ·)) = values := by
  cases numbered <;>
    simp [arguments, ParamGroup.ordered, List.filter_map, Function.comp_def]

/-- With the values written in place, it does not matter which place it is. -/
theorem spelled_eq_inscribed (write : Value → String) (place : Nat) (f : Fragment) :
    spelled d write f = inscribed d (fun _ => write) place f := by
  induction f generalizing place with
  | nil => rfl
  | cons piece rest ih =>
    cases piece with
    | text words => rw [spelled, inscribed, ih]
    | name identifier => rw [spelled, inscribed, ih]
    | param group value => rw [spelled, inscribed, ih]

end Fragment

namespace Sql

open Fragment

variable {d : Dialect} {write : Nat → Value → String} {place : Nat}

/-! ## Inserts -/

/-- Texts in parentheses. -/
def listed (texts : List String) : String := "(" ++ ",".intercalate texts ++ ")"

/-- The text of an insert of several rows, whose values are written as given. -/
def rowsText (d : Dialect) (table : String) (columns : List String) (rows : List (List String)) :
    String :=
  "INSERT INTO " ++ d.quote table ++ " " ++ listed (columns.map d.quote) ++ " VALUES " ++
    ",".intercalate (rows.map listed)

/-- The text of an insert of one row, whose values are written as given. -/
def rowText (d : Dialect) (opening table : String) (columns : List String)
    (values : List String) : String :=
  opening ++ " " ++ d.quote table ++ " " ++
    (if columns.isEmpty then d.defaultValues
      else listed (columns.map d.quote) ++ " VALUES " ++ listed values)

/-- The last words of a statement that returns the rows it wrote. -/
def returningText (d : Dialect) : String := if d.has .returning then " RETURNING *" else ""

theorem inscribed_namesFragment (names : List String) :
    inscribed d write place (namesFragment names) = ",".intercalate (names.map d.quote) := by
  have hnone : ∀ name ∈ names, (ofName name).params.length = 0 := fun name _ => rfl
  rw [namesFragment, inscribed_join hnone]
  simp only [inscribed_ofName]
  rw [mapIdx_const]

theorem inscribed_tupleFragment (values : List Value) :
    inscribed d write place (tupleFragment values) =
      listed (values.mapIdx fun j value => write (place + j) value) := by
  have hone : ∀ value ∈ values, (ofParam .data value).params.length = 1 := fun value _ => rfl
  rw [tupleFragment, inscribed_wrap, inscribed_join hone]
  simp only [inscribed_ofParam, Nat.mul_one]
  rfl

theorem inscribed_assignmentsFragment (assignments : Assignments) :
    inscribed d write place (assignmentsFragment assignments) =
      ", ".intercalate
        (assignments.mapIdx fun i a => d.quote a.1 ++ " = " ++ write (place + i) a.2) := by
  have hone : ∀ a ∈ assignments,
      (ofName a.1 ++ ofText " = " ++ ofParam .data a.2).params.length = 1 := fun a _ => rfl
  rw [assignmentsFragment, inscribed_join hone]
  simp only [inscribed_append, inscribed_ofName, inscribed_ofText, inscribed_ofParam, params_append,
    params_ofName, params_ofText, List.append_nil, List.length_nil, Nat.add_zero, Nat.mul_one]

/-- The insert of one row, with its values in their places. -/
theorem inscribed_insertFragment (opening table : String) (row : Assignments) :
    inscribed d write place (insertFragment d opening table row) =
      rowText d opening table (row.map Prod.fst)
        (row.mapIdx fun j a => write (place + j) a.2) := by
  have hfront :
      (ofText (opening ++ " ") ++ ofName table ++ ofText " ").params.length = 0 := rfl
  have hvalues : inscribed d write place
      (if row.isEmpty then ofText d.defaultValues
        else wrap "(" (namesFragment (row.map Prod.fst)) ") VALUES " ++
          tupleFragment (row.map Prod.snd)) =
      if (row.map Prod.fst).isEmpty then d.defaultValues
        else listed ((row.map Prod.fst).map d.quote) ++ " VALUES " ++
          listed (row.mapIdx fun j a => write (place + j) a.2) := by
    cases row with
    | nil => exact inscribed_ofText d.defaultValues
    | cons first rest =>
      have hclosing : ") VALUES " = ")" ++ " VALUES " := rfl
      rw [List.isEmpty_cons, if_neg Bool.false_ne_true, List.map_cons, List.isEmpty_cons,
        if_neg Bool.false_ne_true, inscribed_append, inscribed_wrap, inscribed_namesFragment,
        inscribed_tupleFragment, params_wrap, params_namesFragment, List.length_nil, Nat.add_zero,
        mapIdx_map, hclosing]
      simp only [listed, String.append_assoc, List.map_cons]
  rw [insertFragment, inscribed_append, hfront, Nat.add_zero, hvalues]
  simp only [inscribed_append, inscribed_ofText, inscribed_ofName]
  rw [rowText]

/-- A write ends with what it returns. -/
theorem inscribed_write (w : Write) :
    inscribed d write place (w.fragment d) =
      inscribed d write place (w.body d) ++ (if w.returnsRows d then " RETURNING *" else "") := by
  rw [Write.fragment, inscribed_append]
  split
  · rw [inscribed_ofText]
  · rw [inscribed_nil]

/-- The insert of one row returns it. -/
theorem inscribed_insert (table : String) (row : Assignments) :
    inscribed d write place ((Write.insert table row).fragment d) =
      rowText d "INSERT INTO" table (row.map Prod.fst)
          (row.mapIdx fun j a => write (place + j) a.2) ++
        returningText d := by
  rw [inscribed_write, Write.body, inscribed_insertFragment]
  rfl

/-- The insert of several rows of one width, with the values of each row behind those of the rows in
front of it. -/
theorem inscribed_insertRows {k : Nat} {rows : List (List Value)} (h : ∀ row ∈ rows, row.length = k)
    (table : String) (columns : List String) :
    inscribed d write place ((Write.insertRows table columns rows).fragment d) =
      rowsText d table columns
          (rows.mapIdx fun i row => row.mapIdx fun j value => write (place + i * k + j) value) ++
        returningText d := by
  have hwidth : ∀ row ∈ rows, (tupleFragment row).params.length = k := fun row hrow => by
    rw [params_tupleFragment, List.length_map, h row hrow]
  have hrows : inscribed d write place (Fragment.join "," (rows.map tupleFragment)) =
      ",".intercalate ((rows.mapIdx fun i row =>
        row.mapIdx fun j value => write (place + i * k + j) value).map listed) := by
    rw [inscribed_join hwidth, ← mapIdx_const listed, List.mapIdx_mapIdx]
    simp only [inscribed_tupleFragment]
    rfl
  have hopening : " (" = " " ++ "(" := rfl
  have hclosing : ") VALUES " = ")" ++ " VALUES " := rfl
  rw [inscribed_write, Write.body]
  simp only [inscribed_append, inscribed_ofText, inscribed_ofName, inscribed_wrap,
    inscribed_namesFragment, params_append, params_ofText, params_ofName, params_wrap,
    params_namesFragment, List.append_nil, List.length_nil, Nat.add_zero, hrows, rowsText,
    listed, hopening, hclosing, String.append_assoc]
  rfl

/-- The insert of a row that gives way to changes where it is in conflict by some columns, with the
values of the changes behind those of the row. -/
theorem inscribed_upsert (hd : d ≠ .mysql) (table : String) (row : Assignments)
    (conflict : List String) (changes : Assignments) :
    inscribed d write place ((Write.upsert table row conflict changes).fragment d) =
      rowText d "INSERT INTO" table (row.map Prod.fst)
          (row.mapIdx fun j a => write (place + j) a.2) ++
        " ON CONFLICT " ++ listed (conflict.map d.quote) ++ " DO " ++
        (if changes.isEmpty then "NOTHING"
          else "UPDATE SET " ++ ", ".intercalate (changes.mapIdx fun i a =>
            d.quote a.1 ++ " = " ++ write (place + row.length + i) a.2)) ++
        returningText d := by
  have hbody : Write.upsertFragment d table row conflict changes =
      insertFragment d "INSERT INTO" table row ++
        wrap " ON CONFLICT (" (namesFragment conflict) ") DO " ++
        (if changes.isEmpty then ofText "NOTHING"
          else ofText "UPDATE SET " ++ assignmentsFragment changes) := by
    cases d with
    | mysql => exact absurd rfl hd
    | _ => rfl
  have hchanges (next : Nat) : inscribed d write next
      (if changes.isEmpty then ofText "NOTHING"
        else ofText "UPDATE SET " ++ assignmentsFragment changes) =
      if changes.isEmpty then "NOTHING"
        else "UPDATE SET " ++ ", ".intercalate (changes.mapIdx fun i a =>
          d.quote a.1 ++ " = " ++ write (next + i) a.2) := by
    split
    · exact inscribed_ofText _
    · rw [inscribed_append, inscribed_ofText, inscribed_assignmentsFragment]
      rfl
  have hopening : " ON CONFLICT (" = " ON CONFLICT " ++ "(" := rfl
  have hclosing : ") DO " = ")" ++ " DO " := rfl
  rw [inscribed_write, Write.body, hbody]
  simp only [inscribed_append, inscribed_wrap, inscribed_insertFragment, inscribed_namesFragment,
    params_append, params_insertFragment, params_wrap, params_namesFragment, List.append_nil,
    List.length_map, hchanges, listed, hopening, hclosing, String.append_assoc]
  rfl

/-! ## Writes that bind nothing but data -/

variable {w : Write}

/-- The values that a write stores are bound in order, if it asks nothing of the rows that are
there. -/
theorem Write.args_of_asked (h : w.asked = []) : (w.statement d).args = w.stored := by
  rw [Write.statement, args_ofFragment, w.params_eq, h, List.map_nil, List.append_nil, arguments_data]

/-- The placeholders of such a write are numbered in the order of the text. -/
theorem Write.sql_of_asked (h : w.asked = []) :
    (w.statement d).sql =
      inscribed d (fun place _ => d.placeholder (place + 1)) 0 (w.fragment d) := by
  have hdata : ∀ param ∈ (w.fragment d).params, param.1 = .data := by
    intro param hparam
    rw [w.params_eq, h, List.map_nil, List.append_nil] at hparam
    obtain ⟨value, -, rfl⟩ := List.mem_map.mp hparam
    rfl
  rw [Write.statement, sql_ofFragment]
  exact renderFrom_eq_inscribed (fun param hparam => absurd hparam List.not_mem_nil) hdata

/-- A write with its arguments in place of the placeholders. -/
theorem Write.filled_fragment (w : Write) (write : Value → String) :
    (w.fragment d).filled d write = some (inscribed d (fun _ => write) 0 (w.fragment d)) := by
  rw [(binds d (w.fragment d)).filled, spelled_eq_inscribed write 0]

end Sql

end RelationalQuery
