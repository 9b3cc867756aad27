import RelationalQuery.Compiler
import RelationalQuery.Proofs.Blank.Write

/-!
# Values are never written into statements

The plan of a query looks the same, once its values are blanked, whether the query has its own
values or blank ones. As the text of a plan does not depend on the values in it, queries that are
alike are compiled to statements with the same text, whose arguments are alike one by one, or both
fail with the same error.
-/

namespace RelationalQuery

namespace Compile

open Sql (Write)

variable {c : Context} {filtered : Bool}

/-! ## Plans -/

/-- The plan with blank values. -/
def Plan.blank : Plan → Plan
  | read r => read r.blank
  | write w => write w.blank

/-- The plan of a query looks the same without its values. -/
theorem blank_plan (q : Query) :
    Plan.blank <$> plan c filtered q.blank = Plan.blank <$> plan c filtered q := by
  have hread {x y : Except CompileError Read} (h : Read.blank <$> x = Read.blank <$> y) :
      Plan.blank <$> (do return Plan.read (← x)) = Plan.blank <$> (do return Plan.read (← y)) :=
    map_bind_congr h fun r r' hr => congrArg (Except.ok <| Plan.read ·) hr
  have hwrite {x y : Except CompileError Write} (h : Write.blank <$> x = Write.blank <$> y) :
      Plan.blank <$> (do return Plan.write (← x)) = Plan.blank <$> (do return Plan.write (← y)) :=
    map_bind_congr h fun w w' hw => congrArg (Except.ok <| Plan.write ·) hw
  rw [plan, plan]
  refine map_bind_congr_right _ fun _ => ?_
  obtain ⟨model, action, arguments, selection⟩ := q
  cases action with
  | count => exact hread (blank_planCount _)
  | aggregate => exact hread (blank_planAggregate filtered _)
  | groupBy => exact hread (blank_planGroupBy filtered _)
  | create => exact hwrite (blank_planCreate _)
  | createMany => exact hwrite (blank_planCreateMany _)
  | update => exact hwrite (blank_planUpdate _ true)
  | updateMany => exact hwrite (blank_planUpdate _ false)
  | upsert => exact hwrite (blank_planUpsert _)
  | delete => exact hwrite (blank_planDelete _)
  | deleteMany => exact hwrite (blank_planDelete _)
  | _ => exact hread (blank_planFind _)

/-! ## Records that connect rows -/

/-- The rows to connect and disconnect, with blank values. -/
def JunctionWrite.blank (j : JunctionWrite) : JunctionWrite := { j with write := j.write.blank }

/-- A record is taken apart in the same way without its values. -/
theorem splitRecord_blank (model : String) (record : DataRecord) :
    splitRecord c model record.blank =
      Prod.map DataRecord.blank (List.map JunctionWrite.blank) <$> splitRecord c model record := by
  induction record with
  | nil => rfl
  | cons entry rest ih =>
    obtain ⟨field, datum⟩ := entry
    cases datum with
    | value v =>
      show splitRecord c model ((field, .value v.blank) :: DataRecord.blank rest) = _
      rw [splitRecord, splitRecord, ih, bind_map_left, map_bind]
      rfl
    | relation write =>
      show splitRecord c model ((field, .relation write.blank) :: DataRecord.blank rest) = _
      rw [splitRecord, splitRecord, ih, map_bind]
      refine bind_congr fun relation => ?_
      rw [bind_map_left, map_bind]
      rfl

theorem blank_planRow (q : Query) (row : DataRecord) :
    Plan.blank <$> planRow c filtered q.blank row.blank =
      Plan.blank <$> planRow c filtered q row := by
  have hempty : row.blank.isEmpty = row.isEmpty := Dict.isEmpty_mapValues Datum.blank row
  have hread := blank_planFind (c := c)
    { model := q.model, action := .findMany, arguments := { filter := q.arguments.filter } }
  rw [planRow, planRow, hempty]
  show Plan.blank <$> (if q.action = .update ∧ row.isEmpty then _ else _) = _
  split
  · exact map_bind_congr hread fun r r' h => congrArg (Except.ok <| Plan.read ·) h
  · exact blank_plan { q with arguments := { q.arguments with data := some (.one row) } }

/-! ## The id of the written row -/

/-- The id with a blank value. -/
def RowId.blank : RowId → RowId
  | known value => known value.blank
  | generated column => generated column

theorem RowId.bound_blank (id : RowId) : id.blank.bound = id.bound.blank := by
  cases id <;> rfl

theorem RowId.column?_blank (id : RowId) : id.blank.column? = id.column? := by
  cases id <;> rfl

theorem present_blank (value : Option Value) :
    present (value.map Value.blank) = (present value).map Value.blank := by
  cases value with
  | none => rfl
  | some v => cases v <;> rfl

theorem soleValue_blank (criterion : Criterion) :
    soleValue criterion.blank = (soleValue criterion).map Value.blank := by
  cases criterion with
  | comparison operators =>
    cases operators with
    | nil => rfl
    | cons entry rest =>
      cases rest with
      | nil =>
        obtain ⟨key, value⟩ := entry
        show (if key = Comparison.equals.key then some value.blank else none) =
          Option.map Value.blank (if key = Comparison.equals.key then some value else none)
        split <;> rfl
      | cons entry' rest => rfl
  | _ => rfl

/-- The identity of a row by a value, if there is one. -/
theorem blank_known (error : Except CompileError RowId) (value : Option Value) :
    RowId.blank <$> (match value.map Value.blank with
      | some value => Except.ok (RowId.known value)
      | none => error) =
    RowId.blank <$> (match value with
      | some value => Except.ok (RowId.known value)
      | none => error) := by
  cases value with
  | none => rfl
  | some value => exact congrArg (Except.ok <| RowId.known ·) (Value.blank_blank value)

theorem blank_rowId (q : Query) (record : DataRecord) :
    RowId.blank <$> rowId c q.blank record.blank = RowId.blank <$> rowId c q record := by
  have hrecord (field : String) : (Dict.get? record.blank field >>= Datum.value?) =
      (Dict.get? record field >>= Datum.value?).map Value.blank := by
    rw [DataRecord.blank, Dict.get?_mapValues]
    cases Dict.get? record field with
    | none => rfl
    | some datum => cases datum <;> rfl
  have hfilter (field : String) :
      (q.blank.arguments.filter >>= fun filter => filter.get? field >>= soleValue) =
        (q.arguments.filter >>= fun filter => filter.get? field >>= soleValue).map Value.blank := by
    rw [show q.blank.arguments.filter = q.arguments.filter.map Filter.blank from rfl]
    cases q.arguments.filter with
    | none => rfl
    | some filter =>
      show (Dict.get? (Filter.blank filter) field >>= soleValue) =
        (Dict.get? filter field >>= soleValue).map Value.blank
      rw [Filter.blank_eq_mapValues, Dict.get?_mapValues]
      cases Dict.get? filter field with
      | none => rfl
      | some criterion => exact soleValue_blank criterion
  rw [rowId, rowId, hrecord, hfilter, present_blank, present_blank]
  rw [show q.blank.action = q.action from rfl]
  cases q.action <;> exact blank_known _ _

/-! ## Join tables -/

theorem blank_targetReference (model : String) (target : Target) :
    (targetReference c model target.blank).blank = (targetReference c model target).blank := by
  rw [targetReference, targetReference]
  by_cases hid : c.schema.columnOf model target.field = c.schema.idColumn model
  · rw [if_pos hid, if_pos (show c.schema.columnOf model target.blank.field = _ from hid)]
    exact congrArg Sql.Reference.value (Value.blank_blank target.value)
  · rw [if_neg hid, if_neg (show ¬ c.schema.columnOf model target.blank.field = _ from hid)]
    exact congrArg (Sql.Reference.lookup _ _ _) (Value.blank_blank target.value)

theorem blank_junctionWrites (model : String) {id id' : Value} (h : id.blank = id'.blank)
    (junction : JunctionWrite) :
    List.map Write.blank <$> junctionWrites c model id junction.blank =
      List.map Write.blank <$> junctionWrites c model id' junction := by
  have htargets : junction.blank.write.connect ++ junction.blank.write.disconnect =
      (junction.write.connect ++ junction.write.disconnect).map Target.blank :=
    List.map_append.symm
  have hwrites (write : Value → Sql.Reference → Write) (targets : List Target)
      (hwrite : ∀ own target, (write own target).blank = write own.blank target.blank) :
      ((targets.map Target.blank).map fun target =>
          write id (targetReference c junction.relation.target target)).map Write.blank =
        (targets.map fun target =>
          write id' (targetReference c junction.relation.target target)).map Write.blank := by
    rw [List.map_map, List.map_map, List.map_map]
    refine List.map_congr_left fun target _ => ?_
    show (write id _).blank = (write id' _).blank
    rw [hwrite, hwrite, h, blank_targetReference]
  -- whether a join table is needed is decided by the number of targets
  rw [junctionWrites, junctionWrites, htargets]
  rw [show junction.blank.relation = junction.relation from rfl]
  generalize junction.write.connect ++ junction.write.disconnect = targets
  cases junction.relation.joinTable with
  | none => cases targets <;> rfl
  | some table =>
    cases targets with
    | nil => rfl
    | cons target rest =>
      refine congrArg Except.ok ?_
      rw [List.map_append, List.map_append]
      exact congr (congrArg HAppend.hAppend
        (hwrites (Write.connect table _ _) junction.write.connect fun _ _ => rfl))
        (hwrites (Write.disconnect table _ _) junction.write.disconnect fun _ _ => rfl)

/-- The mutation with blank values. -/
def MutationPlan.blank (p : MutationPlan) : MutationPlan :=
  { p with main := p.main.blank, junctions := p.junctions.map Write.blank }

/-- The plan of a query that may connect rows looks the same without its values. -/
theorem blank_planMutation (q : Query) :
    MutationPlan.blank <$> planMutation c filtered q.blank =
      MutationPlan.blank <$> planMutation c filtered q := by
  have hplain : MutationPlan.blank <$> (do
        return ({ main := ← plan c filtered q.blank } : MutationPlan)) =
      MutationPlan.blank <$> (do return ({ main := ← plan c filtered q } : MutationPlan)) :=
    map_bind_congr (blank_plan q) fun p p' h =>
      congrArg (fun main => Except.ok (⟨main, [], none⟩ : MutationPlan)) h
  rw [planMutation, planMutation, data_blank]
  cases q.arguments.data with
  | none => exact hplain
  | some data =>
    cases data with
    | many records => exact hplain
    | one record =>
      show MutationPlan.blank <$> (splitRecord c q.model record.blank >>= _) = _
      rw [splitRecord_blank, bind_map_left]
      refine map_bind_congr_right _ fun parts => ?_
      obtain ⟨row, junctions⟩ := parts
      dsimp only [Prod.map]
      rw [List.isEmpty_map]
      split
      · exact hplain
      · show MutationPlan.blank <$> (if !connects q.action then _ else _) = _
        split
        · rfl
        · refine map_bind_congr (blank_planRow q row) fun main main' hmain => ?_
          refine map_bind_congr (blank_rowId q record) fun id id' hid => ?_
          -- the id itself is a value that the two runs may differ in
          have hbound : id.bound.blank = id'.bound.blank := by
            rw [← RowId.bound_blank, hid, RowId.bound_blank]
          have hcolumn : id.column? = id'.column? := by
            rw [← RowId.column?_blank, hid, RowId.column?_blank]
          refine map_bind_congr (map_mapM_congr (blank_junctionWrites q.model hbound) junctions)
            fun writes writes' hwrites => ?_
          show Except.ok (MutationPlan.mk main.blank (writes.flatten.map Write.blank) id.column?) =
            Except.ok (MutationPlan.mk main'.blank (writes'.flatten.map Write.blank) id'.column?)
          rw [hmain, hcolumn, List.map_flatten, List.map_flatten, hwrites]

/-! ## Statements -/

/-- A blank plan becomes the statement of the plan, with blank arguments. -/
theorem Plan.statement_blank (d : Dialect) (p : Plan) :
    p.blank.statement d = (p.statement d).blank := by
  cases p with
  | read r =>
    show Read.statement d r.blank = (Read.statement d r).blank
    rw [Read.statement, Read.statement, show r.blank.select = r.select.blank from rfl,
      r.select.fragment_blank, Statement.ofFragment_blank]
    rfl
  | write w => exact Write.statement_blank d w

/-- A blank plan becomes the mutation of the plan, with blank arguments. -/
theorem MutationPlan.mutation_blank (d : Dialect) (p : MutationPlan) :
    p.blank.mutation d = (p.mutation d).blank := by
  have hjunctions : (p.junctions.map Write.blank).map (Write.statement d) =
      (p.junctions.map (Write.statement d)).map Statement.blank := by
    rw [List.map_map, List.map_map]
    exact List.map_congr_left fun w _ => Write.statement_blank d w
  show Mutation.mk (p.main.blank.statement d) ((p.junctions.map Write.blank).map _) _ = _
  rw [p.main.statement_blank, hjunctions]
  rfl

end Compile

/-! ## Compilers -/

namespace Compiler

open Compile

/-- Whether two compilations fail with the same error, or both end with results that are alike. -/
def SameOutcome {α : Type} (alike : α → α → Prop) : Except CompileError α → Except CompileError α →
    Prop
  | .error error, .error error' => error = error'
  | .ok a, .ok b => alike a b
  | _, _ => False

/-- Compilations that look the same have the same outcome. -/
theorem sameOutcome_of_map {α : Type} {e : α → α} {alike : α → α → Prop}
    (halike : ∀ {a b : α}, e a = e b → alike a b) {x y : Except CompileError α}
    (h : e <$> x = e <$> y) : SameOutcome alike x y := by
  cases x with
  | error error =>
    cases y with
    | error error' => exact Except.error.inj h
    | ok b => cases h
  | ok a =>
    cases y with
    | error error' => cases h
    | ok b => exact halike (Except.ok.inj h)

variable (k : Compiler)

theorem blank_statement (q : Query) :
    Statement.blank <$> k.statement q.blank = Statement.blank <$> k.statement q := by
  have hstatement (x : Except CompileError Plan) :
      Statement.blank <$> (Plan.statement k.dialect <$> x) =
        Plan.statement k.dialect <$> (Plan.blank <$> x) := by
    rw [← comp_map, ← comp_map]
    exact congrArg (· <$> x) (funext fun p => (p.statement_blank k.dialect).symm)
  rw [statement, statement, hstatement, hstatement, blank_plan]

theorem blank_mutation (q : Query) :
    Mutation.blank <$> k.mutation q.blank = Mutation.blank <$> k.mutation q := by
  have hmutation (x : Except CompileError MutationPlan) :
      Mutation.blank <$> (MutationPlan.mutation k.dialect <$> x) =
        MutationPlan.mutation k.dialect <$> (MutationPlan.blank <$> x) := by
    rw [← comp_map, ← comp_map]
    exact congrArg (· <$> x) (funext fun p => (p.mutation_blank k.dialect).symm)
  rw [mutation, mutation, hmutation, hmutation, blank_planMutation]

/-- Queries that differ in values only, and there by alike values, are compiled to the same texts,
with arguments that are alike one by one, or fail with the same error. -/
theorem sameOutcome_of_alike {q q' : Query} (h : q.Alike q') :
    SameOutcome Statement.Alike (k.statement q) (k.statement q') ∧
      SameOutcome Mutation.Alike (k.mutation q) (k.mutation q') := by
  refine ⟨sameOutcome_of_map Statement.alike_of_blank ?_,
    sameOutcome_of_map Mutation.alike_of_blank ?_⟩
  · rw [← blank_statement, h, blank_statement]
  · rw [← blank_mutation, h, blank_mutation]

/-- Users, who are connected with groups over a join table. -/
def userGroups : Compiler :=
  { dialect := .postgres
    schema := ⟨[("User", { name := "User", table := "users", relations := [("groups",
        { name := "groups", cardinality := .manyToMany, target := "Group",
          joinTable := some "user_groups" })] }),
      ("Group", { name := "Group", table := "groups" })]⟩ }

/-- Renames a user whose name has a text in it, and connects the user with a group. -/
def renameUser (id search name group : Value) : Query :=
  { model := "User", action := .update
    arguments :=
      { filter := some [("id", .literal id), ("name", .comparison [("contains", search)])]
        data := some (.one [("name", .value name),
          ("groups", .relation { connect := [⟨"id", group⟩] })]) } }

/-- Values that look like SQL are bound like any others. -/
theorem sameOutcome_renameUser :
    ∃ m m', userGroups.mutation (renameUser (.int 1) (.text "a") (.text "Ann") (.int 2)) = .ok m ∧
      userGroups.mutation (renameUser (.text "1 OR 1=1") (.text "'; --") (.bool true)
        (.text "$1")) = .ok m' ∧ m.relations.length = 1 ∧ m.Alike m' :=
  ⟨_, _, rfl, rfl, rfl, (sameOutcome_of_alike userGroups
    (show (renameUser (.int 1) (.text "a") (.text "Ann") (.int 2)).Alike
      (renameUser (.text "1 OR 1=1") (.text "'; --") (.bool true) (.text "$1")) from rfl)).2⟩

end Compiler

end RelationalQuery
