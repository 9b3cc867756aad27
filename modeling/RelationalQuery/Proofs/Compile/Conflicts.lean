import RelationalQuery.Proofs.Compile.Inserts
import RelationalQuery.Proofs.Query.Keys

/-!
# Conflict targets

An upsert names the columns of a conflict by the keys of its filter. Of the filter it needs nothing
else, and so it is not looked at any further: whether there is a statement does not depend on what
kind of keys these are (`planUpsert_eq_ok_iff`), and the columns of all of them are listed, in order
(`upserts_statement`).

Not every key of a filter is that of a column. `vetsTarget_iff` says that an upsert gets through with
a connective or a relation among its keys whenever all else is in order.
-/

namespace RelationalQuery

/-! ## Filters and records -/

/-- The keys of the filter of a query. -/
def Query.filterKeys (q : Query) : List String := (q.arguments.filter.getD []).keys

/-- Whether a key of a filter is that of a column, and not of a connective or a relation. -/
def Schema.NamesColumn (s : Schema) (model key : String) : Prop :=
  ¬ IsConnectiveKey key ∧ s.relation? model key = none

/-- Whether the records of an upsert can be written, and its filter has a key. -/
structure Query.Upsertable (q : Query) : Prop where
  created : ∃ record, q.arguments.create = some record ∧ relationEntries record = []
  keyed : q.filterKeys ≠ []
  changed : relationEntries (q.arguments.update.getD []) = []

namespace Compile

variable {c : Context} {model : String} {record : DataRecord} {q : Query}

/-- The columns of a record with its values. -/
def assigned (c : Context) (model : String) (record : DataRecord) : Sql.Assignments :=
  record.map fun entry => (c.schema.columnOf model entry.1, entry.2.value?.getD .null)

/-- A record without relations has assignments. -/
theorem assignmentsOf_eq_ok_iff {row : Sql.Assignments} :
    assignmentsOf c model record = .ok row ↔
      relationEntries record = [] ∧ row = assigned c model record := by
  have hplain : relationEntries record = [] ↔ ∀ entry ∈ record, ¬ entry.2.isRelation :=
    List.filter_eq_nil_iff
  rw [hplain, assigned]
  refine mapM_eq_ok_iff fun entry assignment => ?_
  obtain ⟨field, datum⟩ := entry
  cases datum with
  | value value =>
    show Except.ok (c.schema.columnOf model field, value) = Except.ok assignment ↔ _
    simp [Datum.isRelation, Datum.value?, eq_comm]
  | relation write => simp [plainValue, Datum.isRelation, bind, Except.bind]

/-- The insert of an upsert, with the columns of its filter's keys for a target. -/
def upsertOf (c : Context) (q : Query) : Sql.Write :=
  .upsert (c.schema.tableOf q.model) (assigned c q.model (q.arguments.create.getD []))
    (q.filterKeys.map (c.schema.columnOf q.model))
    (assigned c q.model (q.arguments.update.getD []))

/-- How an upsert is planned from a record to create and the keys of a filter. -/
theorem planUpsert_eq (hcreate : q.arguments.create = some record) (hkeys : q.filterKeys ≠ []) :
    planUpsert c q = (do
      let row ← assignmentsOf c q.model record
      let changes ← assignmentsOf c q.model (q.arguments.update.getD [])
      return .upsert (c.schema.tableOf q.model) row
        (q.filterKeys.map (c.schema.columnOf q.model)) changes) := by
  rw [planUpsert, ← Query.filterKeys, hcreate]
  dsimp only
  split
  · next hnone => exact absurd hnone hkeys
  · -- an update that is missing makes the changes of an empty record, which are none
    cases q.arguments.update <;> rfl

/-- An upsert is planned if its records can be written and its filter has a key. -/
theorem planUpsert_eq_ok_iff {w : Sql.Write} :
    planUpsert c q = .ok w ↔ q.Upsertable ∧ w = upsertOf c q := by
  cases hcreate : q.arguments.create with
  | none =>
    rw [planUpsert, hcreate]
    refine iff_of_false (fun h => by cases h) fun h => ?_
    obtain ⟨record, hrecord, -⟩ := h.1.created
    exact Option.some_ne_none record (hrecord.symm.trans hcreate)
  | some record =>
    by_cases hkeys : q.filterKeys = []
    · rw [planUpsert, ← Query.filterKeys, hcreate, hkeys]
      exact iff_of_false (fun h => by cases h) fun h => h.1.keyed hkeys
    · rw [planUpsert_eq hcreate hkeys, bind_eq_ok_iff, upsertOf, hcreate]
      constructor
      · rintro ⟨row, hrow, h⟩
        obtain ⟨changes, hchanges, h⟩ := bind_eq_ok_iff.mp h
        obtain rfl := Except.ok.inj h
        obtain ⟨hcreated, rfl⟩ := assignmentsOf_eq_ok_iff.mp hrow
        obtain ⟨hchanged, rfl⟩ := assignmentsOf_eq_ok_iff.mp hchanges
        exact ⟨⟨⟨record, hcreate, hcreated⟩, hkeys, hchanged⟩, rfl⟩
      · rintro ⟨hupsertable, rfl⟩
        obtain ⟨created, hcreated, hnone⟩ := hupsertable.created
        obtain rfl : record = created := Option.some.inj (hcreate.symm.trans hcreated)
        refine ⟨_, assignmentsOf_eq_ok_iff.mpr ⟨hnone, rfl⟩, ?_⟩
        rw [assignmentsOf_eq_ok_iff.mpr ⟨hupsertable.changed, rfl⟩]
        rfl

/-- A record that has no assignments connects rows. -/
theorem exists_of_assignmentsOf_eq_error {error : CompileError}
    (h : assignmentsOf c model record = .error error) :
    ∃ field, error = .connectsRows field model := by
  obtain ⟨entry, -, hentry⟩ := exists_of_mapM_eq_error h
  obtain ⟨field, datum⟩ := entry
  cases datum with
  | value value => cases hentry
  | relation write => exact ⟨field, (Except.error.inj hentry).symm⟩

/-- An upsert that cannot be planned is at fault itself. -/
theorem isArgument_of_planUpsert {error : CompileError} (h : planUpsert c q = .error error) :
    error.isArgument := by
  have hconnects {record : DataRecord} (h : assignmentsOf c q.model record = .error error) :
      error.isArgument := by
    obtain ⟨field, rfl⟩ := exists_of_assignmentsOf_eq_error h
    rfl
  cases hcreate : q.arguments.create with
  | none =>
    rw [planUpsert, hcreate] at h
    obtain rfl := Except.error.inj h
    rfl
  | some record =>
    by_cases hkeys : q.filterKeys = []
    · rw [planUpsert, ← Query.filterKeys, hcreate, hkeys] at h
      obtain rfl := Except.error.inj h
      rfl
    · rw [planUpsert_eq hcreate hkeys] at h
      rcases bind_eq_error_iff.mp h with h | ⟨row, -, h⟩
      · exact hconnects h
      · rcases bind_eq_error_iff.mp h with h | ⟨changes, -, h⟩
        · exact hconnects h
        · cases h

end Compile

namespace Compiler

open Compile

variable {k : Compiler} {q : Query}

/-- Whether a statement inserts a row, or makes changes where it is in conflict, in a dialect that
names the columns of a conflict: these are the columns of some keys, in order. -/
structure Upserts (k : Compiler) (model : String) (row : Sql.Assignments) (keys : List String)
    (changes : Sql.Assignments) (s : Statement) : Prop where
  text : s.sql =
    Sql.rowText k.dialect "INSERT INTO" (k.schema.tableOf model) (row.map Prod.fst)
        (row.mapIdx fun j _ => k.dialect.placeholder (j + 1)) ++
      " ON CONFLICT " ++
      Sql.listed ((keys.map (k.schema.columnOf model)).map k.dialect.quote) ++ " DO " ++
      (if changes.isEmpty then "NOTHING"
        else "UPDATE SET " ++ ", ".intercalate (changes.mapIdx fun i a =>
          k.dialect.quote a.1 ++ " = " ++ k.dialect.placeholder (row.length + i + 1))) ++
      Sql.returningText k.dialect
  args : s.args = row.map Prod.snd ++ changes.map Prod.snd

/-- The statement of an upsert lists the columns of all keys of the filter. -/
theorem upserts_statement (hd : k.dialect ≠ .mysql) (q : Query) :
    k.Upserts q.model (assigned k.context q.model (q.arguments.create.getD [])) q.filterKeys
      (assigned k.context q.model (q.arguments.update.getD []))
      ((upsertOf k.context q).statement k.dialect) where
  text := by
    rw [Sql.Write.sql_of_asked rfl, upsertOf, Sql.inscribed_upsert hd]
    simp only [Nat.zero_add]
    rfl
  args := Sql.Write.args_of_asked rfl

/-- The statement of a query that upserts is that of the planned upsert. -/
theorem statement_of_upsert (haction : q.action = .upsert) :
    k.statement q = (do
      k.context.checkModel q.model
      Sql.Write.statement k.dialect <$> planUpsert k.context q) :=
  statement_of_write _ fun filtered => by rw [plan, haction]

/-- An upsert that has no statement is at fault itself. -/
theorem isArgument_of_upsert (haction : q.action = .upsert) {error : CompileError}
    (h : k.statement q = .error error) : error.isArgument := by
  rw [statement_of_upsert haction, Context.checkModel] at h
  split at h
  · rw [ok_bind, map_eq_error_iff] at h
    exact isArgument_of_planUpsert h
  · obtain rfl := Except.error.inj h
    rfl

/-- Whether an upsert lists nothing but columns for a conflict: all keys of its filter are those of
columns, or it is refused as one that is at fault itself. -/
def VetsTarget (k : Compiler) (q : Query) : Prop :=
  (∀ key ∈ q.filterKeys, k.schema.NamesColumn q.model key) ∨
    ∃ error, k.statement q = .error error ∧ error.isArgument

/-- An upsert is compiled if its model is accepted, its records can be written and its filter has a
key. In the dialects that name the columns of a conflict, these are the columns of all keys of the
filter, in order. So nothing but columns is listed as long as there are no other keys, or something
else stands against the upsert. -/
theorem vetsTarget_iff (haction : q.action = .upsert) :
    ((∃ s, k.statement q = .ok s) ↔ k.context.accepts q.model ∧ q.Upsertable) ∧
      (∀ s, k.statement q = .ok s → k.dialect ≠ .mysql →
        k.Upserts q.model (assigned k.context q.model (q.arguments.create.getD [])) q.filterKeys
          (assigned k.context q.model (q.arguments.update.getD [])) s) ∧
      (k.VetsTarget q ↔ (k.context.accepts q.model → q.Upsertable →
        ∀ key ∈ q.filterKeys, k.schema.NamesColumn q.model key)) := by
  have hwrite := statement_of_upsert (k := k) haction
  have hstatement := statement_eq_ok_iff_of_write hwrite fun w => planUpsert_eq_ok_iff
  have hcompiled : (∃ s, k.statement q = .ok s) ↔ k.context.accepts q.model ∧ q.Upsertable := by
    simp only [hstatement, exists_and_left, exists_eq, and_true]
  refine ⟨hcompiled, fun s hs hd => ?_, ?_⟩
  · obtain ⟨-, -, rfl⟩ := (hstatement s).mp hs
    exact upserts_statement hd q
  · constructor
    · rintro (hcolumns | ⟨error, herror, -⟩) haccepts hupsertable
      · exact hcolumns
      · obtain ⟨s, hs⟩ := hcompiled.mpr ⟨haccepts, hupsertable⟩
        rw [herror] at hs
        cases hs
    · intro hcolumns
      cases hs : k.statement q with
      | ok s =>
        obtain ⟨haccepts, hupsertable⟩ := hcompiled.mp ⟨s, hs⟩
        exact .inl (hcolumns haccepts hupsertable)
      | error error => exact .inr ⟨error, hs, isArgument_of_upsert haction hs⟩

/-- Users, who write posts. -/
def bloggers : Compiler :=
  { dialect := .postgres
    schema := ⟨[("User", { name := "User", table := "users", relations := [("posts",
      { name := "posts", cardinality := .oneToMany, target := "Post",
        foreignKey := "ownerId" })] })]⟩ }

/-- Makes sure that there is a user, who is known by the keys of a filter. -/
def ensureUser (given : Filter) : Query :=
  { model := "User", action := .upsert
    arguments := { filter := some given, create := some [("id", .value (.int 1))] } }

/-- A user who is known by the id is in conflict by its column. -/
theorem vetsTarget_ensureUser :
    ∃ s, bloggers.statement (ensureUser [("id", .literal (.int 1))]) = .ok s ∧
      s.sql = "INSERT INTO \"users\" (\"id\") VALUES ($1) ON CONFLICT (\"id\") DO NOTHING" ++
        " RETURNING *" ∧
      bloggers.VetsTarget (ensureUser [("id", .literal (.int 1))]) := by
  have hs : bloggers.statement (ensureUser [("id", .literal (.int 1))]) = .ok _ := rfl
  have hcolumn : bloggers.schema.NamesColumn "User" "id" := ⟨by decide, rfl⟩
  refine ⟨_, hs, rfl, (vetsTarget_iff rfl).2.2.mpr fun _ _ => ?_⟩
  exact List.forall_mem_singleton.mpr hcolumn

/-- A relation or a connective becomes a column of the conflict. Other actions refuse the relation. -/
theorem statement_ensureUser_posts :
    bloggers.statement (ensureUser [("posts", .literal (.int 1))]) =
        .ok { sql := "INSERT INTO \"users\" (\"id\") VALUES ($1) ON CONFLICT (\"posts\") DO NOTHING" ++
          " RETURNING *", args := [.int 1], returnsRows := true } ∧
      bloggers.statement (ensureUser [("AND", .logical .all [[("id", .literal (.int 1))]])]) =
        .ok { sql := "INSERT INTO \"users\" (\"id\") VALUES ($1) ON CONFLICT (\"AND\") DO NOTHING" ++
          " RETURNING *", args := [.int 1], returnsRows := true } ∧
      bloggers.statement { ensureUser [("posts", .literal (.int 1))] with action := .deleteMany } =
        .error (.relationWithoutQuantifier "posts" "User") ∧
      ¬ bloggers.VetsTarget (ensureUser [("posts", .literal (.int 1))]) := by
  have hs : bloggers.statement (ensureUser [("posts", .literal (.int 1))]) = .ok _ := rfl
  refine ⟨rfl, rfl, rfl, ?_⟩
  rintro (hcolumns | ⟨error, herror, -⟩)
  · cases (hcolumns "posts" List.mem_cons_self).2
  · rw [hs] at herror
    cases herror

end Compiler

end RelationalQuery
