import RelationalQuery.Proofs.Execute.Runs
import RelationalQuery.Proofs.Result

/-!
# What remains of writes that fail

A write that needs several statements is sent in a transaction, which is rolled back if any of them
fails: nothing of it remains. A write of a single statement is sent over the connection itself. If
the database accepts the statement and its answer then cannot be used, the write fails although its
rows are changed. `keepsWrite_iff` says that this is the one way in which rows remain changed.

## Shape of the effects

Whether a statement writes is read off its text, and whether the adapter accepted it off the answer
to the history at that point. A statement that is sent in a transaction takes effect only if the
next end of a transaction is a commit that the adapter accepts.
-/

namespace RelationalQuery

/-- Whether a statement is written to change rows: whether it is anything but a `SELECT`. -/
def Statement.isWrite (s : Statement) : Bool := !"SELECT ".toList.isPrefixOf s.sql.toList

/-- Whether a call sends a statement over a channel that changes rows. -/
def Call.WritesOver (channel : Channel) : Call → Prop
  | query used s => used = channel ∧ s.isWrite
  | execute used s => used = channel ∧ s.isWrite
  | _ => False

namespace Adapter

/-- Whether an adapter answers a call after a history without an error. -/
def Accepts (a : Adapter) (before : History) : Call → Prop
  | .query channel s => ∃ answer, a.query before channel s = .ok answer
  | .execute channel s => ∃ answer, a.execute before channel s = .ok answer
  | .begin level => a.begin before level = .ok ()
  | .commit => a.commit before = .ok ()
  | .rollback => a.rollback before = .ok ()

/-- Whether the transaction that is open before some calls is committed by them. -/
def Commits (a : Adapter) (before : History) : History → Prop
  | [] => False
  | .commit :: _ => a.Accepts before .commit
  | .rollback :: _ => False
  | call :: rest => a.Commits (before ++ [call]) rest

/-- Whether some calls leave a write in effect: one that is accepted over the connection, or in a
transaction that is committed. -/
def KeepsWrite (a : Adapter) (before : History) : History → Prop
  | [] => False
  | call :: rest =>
    (a.Accepts before call ∧ (call.WritesOver .connection ∨
      call.WritesOver .transaction ∧ a.Commits (before ++ [call]) rest)) ∨
    a.KeepsWrite (before ++ [call]) rest

end Adapter

namespace Execute

variable {a : Adapter}

/-! ## Work in a transaction -/

theorem not_writesOver_of_sendsOver {call : Call} (h : call.SendsOver .transaction) :
    ¬ call.WritesOver .connection := by
  intro hwrites
  cases call with
  | query used s => exact absurd (h.symm.trans hwrites.1) (by decide)
  | execute used s => exact absurd (h.symm.trans hwrites.1) (by decide)
  | _ => exact hwrites

/-- Statements do not end a transaction. -/
theorem commits_append {before : History} {sent : List Call}
    (hsent : ∀ call ∈ sent, call.SendsOver .transaction) (rest : History) :
    a.Commits before (sent ++ rest) ↔ a.Commits (before ++ sent) rest := by
  induction sent generalizing before with
  | nil => rw [List.nil_append, List.append_nil]
  | cons call sent ih =>
    have hstatement := hsent call List.mem_cons_self
    have hrest : a.Commits (before ++ [call]) (sent ++ rest) ↔
        a.Commits (before ++ call :: sent) rest := by
      rw [List.append_cons before call sent]
      exact ih fun later hlater => hsent later (List.mem_cons_of_mem call hlater)
    cases call with
    | query used s => exact hrest
    | execute used s => exact hrest
    | _ => exact absurd hstatement id

/-- Statements in a transaction leave a write in effect only if the transaction is committed, or if
what follows does. -/
theorem keepsWrite_append {before : History} {sent : List Call} {rest : History}
    (hsent : ∀ call ∈ sent, call.SendsOver .transaction)
    (h : a.KeepsWrite before (sent ++ rest)) :
    a.Commits (before ++ sent) rest ∨ a.KeepsWrite (before ++ sent) rest := by
  induction sent generalizing before with
  | nil =>
    rw [List.append_nil]
    exact Or.inr h
  | cons call sent ih =>
    have hlater : ∀ later ∈ sent, later.SendsOver .transaction :=
      fun later hlater => hsent later (List.mem_cons_of_mem call hlater)
    rw [List.append_cons]
    rcases h with ⟨-, hconnection | ⟨-, hcommits⟩⟩ | h
    · exact absurd hconnection (not_writesOver_of_sendsOver (hsent call List.mem_cons_self))
    · exact Or.inl ((commits_append hlater rest).mp hcommits)
    · exact ih hlater h

/-- A call that sends no statement leaves no write in effect. -/
theorem keepsWrite_cons_iff {before rest : History} {call : Call}
    (h : ∀ channel, ¬ call.WritesOver channel) :
    a.KeepsWrite before (call :: rest) ↔ a.KeepsWrite (before ++ [call]) rest := by
  refine ⟨fun hkeeps => ?_, Or.inr⟩
  rcases hkeeps with ⟨-, hconnection | ⟨htransaction, -⟩⟩ | hrest
  · exact absurd hconnection (h .connection)
  · exact absurd htransaction (h .transaction)
  · exact hrest

/-- A transaction in which statements are sent leaves a write in effect only if it is committed at
its end. -/
theorem commits_of_keepsWrite {before : History} {sent : List Call} {closing : Call}
    (hsent : ∀ call ∈ sent, call.SendsOver .transaction)
    (hclosing : ∀ channel, ¬ closing.WritesOver channel)
    (h : a.KeepsWrite before (.begin none :: sent ++ [closing])) :
    a.Commits (before ++ .begin none :: sent) [closing] := by
  rw [List.cons_append, keepsWrite_cons_iff fun _ => id] at h
  rw [List.append_cons]
  rcases keepsWrite_append hsent h with hcommits | hkeeps
  · exact hcommits
  · exact absurd ((keepsWrite_cons_iff hclosing).mp hkeeps) id

/-- The history of a transaction, and what comes of it. -/
theorem runFrom_close {α : Type} (start : History) (result : Except ExecutionError α) :
    runFrom start (close a result) = match result with
      | .ok value => (match a.commit start with
          | .ok _ => .ok value
          | .error failure => .error (.adapter failure), start ++ [.commit])
      | .error error => (.error error, start ++ [.rollback]) := by
  cases result with
  | ok value =>
    rw [close, runFrom_bind, runFrom_call]
    cases a.commit start <;> rfl
  | error error =>
    rw [close, runFrom_bind, runFrom_attempt, runFrom_call]
    rfl

/-- A transaction that fails leaves no write in effect: it did not begin, it was rolled back, or its
commit failed. -/
theorem not_keepsWrite_transaction {α : Type} {work : Session α}
    (hwork : Makes (Call.SendsOver .transaction) work) {start history : History}
    {error : ExecutionError}
    (hrun : runFrom start (do begin a none; close a (← attempt work)) = (.error error, history)) :
    ∃ made, history = start ++ made ∧ ¬ a.KeepsWrite start made := by
  -- three ways to fail: at the beginning, in the work, which is rolled back, or at the commit
  have hbegin : begin a none = call (.begin none) fun before => a.begin before none := rfl
  rw [runFrom_bind, hbegin, runFrom_call] at hrun
  cases hanswer : a.begin start none with
  | error failure =>
    rw [hanswer] at hrun
    obtain ⟨-, rfl⟩ := Prod.mk.inj hrun
    refine ⟨[.begin none], rfl, fun hkeeps => ?_⟩
    exact (keepsWrite_cons_iff fun _ => id).mp hkeeps
  | ok begun =>
    rw [hanswer] at hrun
    dsimp only at hrun
    obtain ⟨sent, hhistory, hsent⟩ := hwork (start ++ [.begin none])
    rw [runFrom_bind, runFrom_attempt, hhistory] at hrun
    dsimp only at hrun
    rw [runFrom_close, List.append_assoc start, List.singleton_append] at hrun
    cases hresult : (runFrom (start ++ [.begin none]) work).1 with
    | ok value =>
      rw [hresult] at hrun
      dsimp only at hrun
      obtain ⟨hcommit, rfl⟩ := Prod.mk.inj hrun
      refine ⟨.begin none :: sent ++ [.commit], List.append_assoc _ _ _, fun hkeeps => ?_⟩
      have haccepted : a.commit (start ++ .begin none :: sent) = .ok () :=
        commits_of_keepsWrite hsent (fun _ => id) hkeeps
      rw [haccepted] at hcommit
      cases hcommit
    | error failure =>
      rw [hresult] at hrun
      dsimp only at hrun
      obtain ⟨-, rfl⟩ := Prod.mk.inj hrun
      refine ⟨.begin none :: sent ++ [.rollback], List.append_assoc _ _ _, fun hkeeps => ?_⟩
      exact commits_of_keepsWrite hsent (fun _ => id) hkeeps

/-! ## Work over the connection -/

/-- A single call leaves a write in effect if it is accepted and writes over the connection. -/
theorem keepsWrite_singleton_iff {before : History} {call : Call} :
    a.KeepsWrite before [call] ↔ a.Accepts before call ∧ call.WritesOver .connection := by
  constructor
  · rintro (⟨haccepted, hconnection | ⟨-, hcommits⟩⟩ | hrest)
    · exact ⟨haccepted, hconnection⟩
    · exact absurd hcommits id
    · exact absurd hrest id
  · rintro ⟨haccepted, hwrites⟩
    exact Or.inl ⟨haccepted, Or.inl hwrites⟩

/-- A query alone leaves a write in effect if it writes and is accepted. -/
theorem keepsWrite_query_iff {s : Statement} {before : History} :
    a.KeepsWrite before [.query .connection s] ↔
      s.isWrite ∧ ∃ answer, a.query before .connection s = .ok answer := by
  rw [keepsWrite_singleton_iff]
  constructor
  · rintro ⟨haccepted, -, hwrite⟩
    exact ⟨hwrite, haccepted⟩
  · rintro ⟨hwrite, haccepted⟩
    exact ⟨haccepted, rfl, hwrite⟩

/-- Reading a cell fails with an error of its own only. -/
theorem ne_adapter_of_coerceCell {column : String} {type : Option ColumnType} {cell : Value}
    {error : ExecutionError} (h : coerceCell column type cell = .error error)
    (failure : AdapterError) : error ≠ .adapter failure := by
  unfold coerceCell at h
  split at h
  · split at h
    · split at h
      · cases h
      · obtain rfl := Except.error.inj h
        exact ExecutionError.noConfusion
    · cases h
  · cases h
  · cases h

/-- Reading the cells of a row fails with errors of its own only. -/
theorem ne_adapter_of_coerceRow {names : List String} {types : List ColumnType} {row : Row}
    {error : ExecutionError} (h : coerceRow names types row = .error error)
    (failure : AdapterError) : error ≠ .adapter failure := by
  induction row generalizing names types with
  | nil => cases h
  | cons cell rest ih =>
    rw [coerceRow] at h
    rcases bind_eq_error_iff.mp h with h | ⟨first, -, h⟩
    · exact ne_adapter_of_coerceCell h failure
    · rcases bind_eq_error_iff.mp h with h | ⟨others, -, h⟩
      · exact ih h
      · cases h

/-- Reading an answer fails with errors of its own only. -/
theorem ne_adapter_of_coerce {answer : ResultSet} {error : ExecutionError}
    (h : coerce answer = .error error) (failure : AdapterError) : error ≠ .adapter failure := by
  rw [coerce] at h
  rcases bind_eq_error_iff.mp h with h | ⟨rows, -, h⟩
  · obtain ⟨row, -, hrow⟩ := exists_of_mapM_eq_error h
    exact ne_adapter_of_coerceRow hrow failure
  · cases h

/-- What is fetched over the connection, if that fails: a statement alone, which was accepted unless
the adapter failed. -/
theorem keepsWrite_fetch_iff {s : Statement} {start history : History} {error : ExecutionError}
    (hrun : runFrom start (fetch a .connection s) = (.error error, history)) :
    ∃ made, history = start ++ made ∧
      (a.KeepsWrite start made ↔ s.isWrite ∧ ∀ failure, error ≠ .adapter failure) := by
  rw [runFrom_fetch] at hrun
  obtain ⟨hresult, rfl⟩ := Prod.mk.inj hrun
  refine ⟨[.query .connection s], rfl, ?_⟩
  rw [keepsWrite_query_iff]
  refine and_congr_right fun _ => ?_
  cases hanswer : a.query start .connection s with
  | error failure =>
    rw [hanswer] at hresult
    obtain rfl := Except.error.inj hresult
    constructor
    · rintro ⟨answer, haccepted⟩
      cases haccepted
    · intro hother
      exact absurd rfl (hother failure)
  | ok answer =>
    rw [hanswer] at hresult
    exact ⟨fun _ => ne_adapter_of_coerce hresult, fun _ => ⟨answer, rfl⟩⟩

/-- What was fetched has been accepted. -/
theorem accepted_of_fetch {s : Statement} {start history : History} {answer : ResultSet}
    (hrun : runFrom start (fetch a .connection s) = (.ok answer, history)) :
    (∃ accepted, a.query start .connection s = .ok accepted) ∧
      start ++ [.query .connection s] = history := by
  rw [runFrom_fetch] at hrun
  obtain ⟨hresult, hhistory⟩ := Prod.mk.inj hrun
  refine ⟨?_, hhistory⟩
  cases hanswer : a.query start .connection s with
  | error failure =>
    rw [hanswer] at hresult
    cases hresult
  | ok accepted => exact ⟨accepted, rfl⟩

/-- A statement without rows fails over the connection only where the adapter does. -/
theorem keepsWrite_sendExecute_iff {s : Statement} {start history : History}
    {error : ExecutionError}
    (hrun : runFrom start (sendExecute a .connection s) = (.error error, history)) :
    ∃ made, history = start ++ made ∧
      (a.KeepsWrite start made ↔ s.isWrite ∧ ∀ failure, error ≠ .adapter failure) := by
  rw [sendExecute, runFrom_call] at hrun
  obtain ⟨hresult, rfl⟩ := Prod.mk.inj hrun
  refine ⟨[.execute .connection s], rfl, ?_⟩
  rw [keepsWrite_singleton_iff]
  cases hanswer : a.execute start .connection s with
  | ok count =>
    rw [hanswer] at hresult
    cases hresult
  | error failure =>
    rw [hanswer] at hresult
    obtain rfl := Except.error.inj hresult
    constructor
    · rintro ⟨⟨count, haccepted⟩, -⟩
      rw [hanswer] at haccepted
      cases haccepted
    · rintro ⟨-, hother⟩
      exact absurd rfl (hother failure)

/-- A mutation of one statement that fails has sent this statement alone, which was accepted unless
the adapter failed. -/
theorem keepsWrite_sendMutation_iff {m : Mutation} (halone : m.relations = [])
    {start history : History} {error : ExecutionError}
    (hrun : runFrom start (sendMutation a .connection m) = (.error error, history)) :
    ∃ made, history = start ++ made ∧
      (a.KeepsWrite start made ↔ m.main.isWrite ∧ ∀ failure, error ≠ .adapter failure) := by
  -- without join tables nothing is sent behind the main statement
  have hnothing {β : Type} {before : History} {statements : List Statement}
      (hnone : statements = []) {next : Session β} :
      runFrom before (do sendAll a .connection statements; next) = runFrom before next := by
    rw [hnone]
    rfl
  rw [sendMutation] at hrun
  split at hrun
  · rcases runFrom_bind_error hrun with hmain | ⟨affected, between, -, hrest⟩
    · rw [sendMain] at hmain
      split at hmain
      · rcases runFrom_bind_error hmain with hfetch | ⟨answer, between, -, hrest⟩
        · exact keepsWrite_fetch_iff hfetch
        · cases hrest
      · exact keepsWrite_sendExecute_iff hmain
    · rw [hnothing halone] at hrest
      cases hrest
  · next column _ =>
    rcases runFrom_bind_error hrun with hfetch | ⟨answer, between, hfetch, hrest⟩
    · exact keepsWrite_fetch_iff hfetch
    · split at hrest
      · -- The one failure after an answer that was read: it lacks the id, which nothing needs.
        obtain ⟨herror, rfl⟩ := Prod.mk.inj hrest
        obtain rfl := Except.error.inj herror
        obtain ⟨haccepted, rfl⟩ := accepted_of_fetch hfetch
        refine ⟨[.query .connection m.main], rfl, ?_⟩
        rw [keepsWrite_query_iff]
        refine and_congr_right fun _ => ⟨fun _ failure => ?_, fun _ => haccepted⟩
        exact ExecutionError.noConfusion
      · have hbound (id : Value) : m.bindGeneratedId id = [] := by
          rw [Mutation.bindGeneratedId, halone, List.map_nil]
        rw [hnothing (hbound _)] at hrest
        cases hrest

/-- A write that fails leaves rows changed if and only if it consists of a single statement that
changes rows, and fails with another error than one of the adapter. -/
theorem keepsWrite_iff {x : Executor} {q : Query} {start history : History} {error : ExecutionError}
    (hrun : runFrom start (writeAlone x q) = (.error error, history)) :
    ∃ made, history = start ++ made ∧
      (x.adapter.KeepsWrite start made ↔
        ∃ m, x.compiler.mutation q = .ok m ∧ m.relations = [] ∧ m.main.isWrite ∧
          ∀ failure, error ≠ .adapter failure) := by
  rw [writeAlone, runFrom_bind] at hrun
  cases hcompiled : x.compiler.mutation q with
  | error failure =>
    rw [hcompiled] at hrun
    obtain ⟨-, rfl⟩ := Prod.mk.inj hrun
    refine ⟨[], (List.append_nil start).symm, fun h => absurd h id, ?_⟩
    rintro ⟨m, hm, -⟩
    cases hm
  | ok m =>
    rw [hcompiled, ofCompiled, runFrom_pure] at hrun
    dsimp only at hrun
    by_cases halone : m.relations = []
    · rw [halone, List.isEmpty_nil, if_pos rfl] at hrun
      obtain ⟨made, hhistory, hkeeps⟩ := keepsWrite_sendMutation_iff halone hrun
      refine ⟨made, hhistory, hkeeps.trans ⟨fun h => ⟨m, rfl, halone, h⟩, ?_⟩⟩
      rintro ⟨m', hm, -, h⟩
      obtain rfl := Except.ok.inj hm
      exact h
    · rw [if_neg (by simpa using halone)] at hrun
      obtain ⟨made, hhistory, hnone⟩ := not_keepsWrite_transaction (makes_sendMutation m) hrun
      refine ⟨made, hhistory, fun h => absurd h hnone, ?_⟩
      rintro ⟨m', hm, halone', -⟩
      obtain rfl := Except.ok.inj hm
      exact absurd halone' halone

/-! ## A created row whose id is not returned -/

/-- A database that accepts everything and returns nothing. -/
def silentAdapter : Adapter where
  flavour := .postgres
  query _ _ _ := .ok {}
  execute _ _ _ := .ok 0
  begin _ _ := .ok ()
  commit _ := .ok ()
  rollback _ := .ok ()

/-- Posts, which are connected with tags over a join table. -/
def posts : Executor :=
  { adapter := silentAdapter
    compiler :=
      { dialect := .postgres
        schema := ⟨[("Post", { name := "Post", table := "posts", relations := [("tags",
            { name := "tags", cardinality := .manyToMany, target := "Tag",
              joinTable := some "post_tags" })] }),
          ("Tag", { name := "Tag", table := "tags" })]⟩ } }

/-- Creates a post and connects it with some tags. -/
def createPost (tags : List Target) : Query :=
  { model := "Post", action := .create
    arguments :=
      { data := some (.one [("title", .value (.text "a")), ("tags", .relation { connect := tags })]) } }

/-- A post that is to be connected with a tag is gone if its id is not returned. -/
theorem keepsWrite_createPost_tag :
    ∃ history, runFrom [] (writeAlone posts (createPost [⟨"id", .int 1⟩])) =
        (.error (.missingGeneratedId "id"), history) ∧
      ∃ made, history = [] ++ made ∧ ¬ posts.adapter.KeepsWrite [] made := by
  have hrun : runFrom [] (writeAlone posts (createPost [⟨"id", .int 1⟩])) =
      (.error (.missingGeneratedId "id"), _) := rfl
  obtain ⟨made, hhistory, hkeeps⟩ := keepsWrite_iff hrun
  refine ⟨_, hrun, made, hhistory, fun h => ?_⟩
  obtain ⟨m, hm, halone, -⟩ := hkeeps.mp h
  obtain rfl := Except.ok.inj hm
  cases halone

/-- A post that is to be connected with no tags stays if its id is not returned, although the write
fails in the same way. -/
theorem keepsWrite_createPost :
    ∃ made, runFrom [] (writeAlone posts (createPost [])) =
        (.error (.missingGeneratedId "id"), made) ∧ posts.adapter.KeepsWrite [] made :=
  ⟨_, rfl, Or.inl ⟨⟨_, rfl⟩, Or.inl ⟨rfl, rfl⟩⟩⟩

end Execute

end RelationalQuery
