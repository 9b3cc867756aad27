import RelationalQuery.Proofs.Compile.Plan
import RelationalQuery.Proofs.Execute.Effects

/-!
# Updates that match no row

An update that connects rows sends its main statement first, and then one statement for each row that
is connected or disconnected. Only the main statement has the whole filter of the query; the others
hold the id alone. `keepsOneOf_iff` says what becomes of them where the main statement returns no
rows: they are sent all the same, and remain in effect if and only if the adapter accepts them and
the commit.

## Shape of the proof

Statements without rows are all sent if each of them is accepted (`runFrom_sendAll_of_acceptsAll`),
and otherwise up to the first that is refused. In a transaction they take effect together, at its end.
-/

namespace RelationalQuery

/-- Whether a call executes one of some statements. -/
def Call.ExecutesOneOf (statements : List Statement) : Call → Prop
  | execute _ s => s ∈ statements
  | _ => False

namespace Adapter

/-- Whether one of some statements is executed by calls and accepted. -/
def AcceptsOneOf (a : Adapter) (statements : List Statement) (before : History) : History → Prop
  | [] => False
  | call :: rest =>
    (call.ExecutesOneOf statements ∧ a.Accepts before call) ∨
      a.AcceptsOneOf statements (before ++ [call]) rest

/-- Whether calls leave one of some statements in effect: it is accepted over the connection, or in a
transaction that is committed. -/
def KeepsOneOf (a : Adapter) (statements : List Statement) (before : History) : History → Prop
  | [] => False
  | call :: rest =>
    (call.ExecutesOneOf statements ∧ a.Accepts before call ∧
      (call.SendsOver .connection ∨ a.Commits (before ++ [call]) rest)) ∨
    a.KeepsOneOf statements (before ++ [call]) rest

/-- Whether an adapter accepts statements that are executed one after the other. -/
def AcceptsAll (a : Adapter) (channel : Channel) (before : History) : List Statement → Prop
  | [] => True
  | s :: rest =>
    a.Accepts before (.execute channel s) ∧
      a.AcceptsAll channel (before ++ [.execute channel s]) rest

end Adapter

namespace Execute

variable {a : Adapter} {channel : Channel} {statements : List Statement} {start before : History}

/-! ## Statements one after the other -/

/-- Statements that are all accepted are all sent. -/
theorem runFrom_sendAll_of_acceptsAll (h : a.AcceptsAll channel start statements) :
    runFrom start (sendAll a channel statements) =
      (.ok (), start ++ statements.map (.execute channel)) := by
  induction statements generalizing start with
  | nil => rw [List.map_nil, List.append_nil]; rfl
  | cons s rest ih =>
    obtain ⟨⟨count, hcount⟩, hrest⟩ := h
    rw [sendAll, runFrom_bind, sendExecute, runFrom_call, hcount]
    dsimp only
    rw [ih hrest, List.append_assoc, List.map_cons, List.singleton_append]

/-- Statements are all accepted if sending them does not fail. -/
theorem acceptsAll_of_runFrom_sendAll (h : (runFrom start (sendAll a channel statements)).1 = .ok ()) :
    a.AcceptsAll channel start statements := by
  induction statements generalizing start with
  | nil => trivial
  | cons s rest ih =>
    rw [sendAll, runFrom_bind, sendExecute, runFrom_call] at h
    cases hanswer : a.execute start channel s with
    | error failure =>
      rw [hanswer] at h
      cases h
    | ok count =>
      rw [hanswer] at h
      exact ⟨⟨count, hanswer⟩, ih h⟩

/-- Of the statements that are sent one is accepted if and only if the first one is. -/
theorem acceptsOneOf_sendAll_iff {s : Statement} {rest : List Statement} {sent : List Call}
    (h : (runFrom start (sendAll a channel (s :: rest))).2 = start ++ sent) :
    a.AcceptsOneOf (s :: rest) start sent ↔ a.Accepts start (.execute channel s) := by
  rw [sendAll, runFrom_bind, sendExecute, runFrom_call] at h
  cases hanswer : a.execute start channel s with
  | error failure =>
    rw [hanswer] at h
    obtain rfl : [Call.execute channel s] = sent := List.append_cancel_left h
    have hrefused : ¬ a.Accepts start (.execute channel s) := by
      rintro ⟨count, haccepted⟩
      rw [hanswer] at haccepted
      cases haccepted
    refine iff_of_false ?_ hrefused
    rintro (⟨-, haccepted⟩ | hnothing)
    · exact hrefused haccepted
    · exact hnothing
  | ok count =>
    rw [hanswer] at h
    dsimp only at h
    have hmakes : Makes (Call.SendsOver channel) (sendAll a channel rest) := makes_sendAll rest
    obtain ⟨later, hlater, -⟩ := hmakes (start ++ [.execute channel s])
    rw [hlater, List.append_assoc] at h
    obtain rfl : .execute channel s :: later = sent := List.append_cancel_left h
    exact iff_of_true (Or.inl ⟨List.mem_cons_self, count, hanswer⟩) ⟨count, hanswer⟩

/-! ## Effects -/

/-- What is accepted in a transaction remains in effect if and only if the transaction is committed
at its end. -/
theorem keepsOneOf_append_iff {sent : List Call} {closing : Call}
    (hsent : ∀ call ∈ sent, call.SendsOver .transaction)
    (hclosing : ¬ closing.ExecutesOneOf statements) :
    a.KeepsOneOf statements before (sent ++ [closing]) ↔
      a.AcceptsOneOf statements before sent ∧ a.Commits (before ++ sent) [closing] := by
  induction sent generalizing before with
  | nil =>
    refine iff_of_false ?_ fun h => h.1
    rintro (⟨hexecutes, -⟩ | hnothing)
    · exact hclosing hexecutes
    · exact hnothing
  | cons call sent ih =>
    have hover := hsent call List.mem_cons_self
    have hlater : ∀ later ∈ sent, later.SendsOver .transaction :=
      fun later hmem => hsent later (List.mem_cons_of_mem call hmem)
    have hnot : ¬ call.SendsOver .connection := by
      intro hconnection
      cases call with
      | query used s => exact absurd (hover.symm.trans hconnection) (by decide)
      | execute used s => exact absurd (hover.symm.trans hconnection) (by decide)
      | _ => exact hconnection
    rw [List.cons_append, Adapter.KeepsOneOf, ih hlater, Adapter.AcceptsOneOf,
      commits_append hlater, List.append_cons before call sent]
    constructor
    · rintro (⟨hexecutes, haccepted, hconnection | hcommits⟩ | ⟨haccepts, hcommits⟩)
      · exact absurd hconnection hnot
      · exact ⟨Or.inl ⟨hexecutes, haccepted⟩, hcommits⟩
      · exact ⟨Or.inr haccepts, hcommits⟩
    · rintro ⟨⟨hexecutes, haccepted⟩ | haccepts, hcommits⟩
      · exact Or.inl ⟨hexecutes, haccepted, Or.inr hcommits⟩
      · exact Or.inr ⟨haccepts, hcommits⟩

/-- A query executes none of the statements. -/
theorem acceptsOneOf_query_iff {s : Statement} {rest : History} :
    a.AcceptsOneOf statements before (.query channel s :: rest) ↔
      a.AcceptsOneOf statements (before ++ [.query channel s]) rest :=
  or_iff_right fun h => h.1

/-- The beginning of a transaction leaves nothing in effect by itself. -/
theorem keepsOneOf_begin_iff {level : Option IsolationLevel} {rest : History} :
    a.KeepsOneOf statements before (.begin level :: rest) ↔
      a.KeepsOneOf statements (before ++ [.begin level]) rest :=
  or_iff_right fun h => h.1

/-! ## Mutations -/

/-- The row that an update writes has an id that is known before. -/
theorem generatedId_of_update {k : Compiler} {q : Query} {m : Mutation} (hm : k.mutation q = .ok m)
    (haction : q.action = .update) : m.generatedId = none := by
  rw [Compiler.mutation, map_eq_ok_iff] at hm
  obtain ⟨p, hp, rfl⟩ := hm
  cases Compile.mutated_of_planMutation hp with
  | alone main_planned => rfl
  | @connected record row junctions main id writes data split some_junction action row_planned
      id_found writes_planned =>
    rw [Compile.rowId, haction] at id_found
    dsimp only at id_found
    split at id_found
    · obtain rfl := Except.ok.inj id_found
      rfl
    · cases id_found

/-- After an empty answer to its main statement a mutation goes on with the others, and changes no
rows if they are accepted. -/
theorem runFrom_sendMutation_of_isEmpty {m : Mutation} (hid : m.generatedId = none)
    (hrows : m.main.returnsRows) {answer : ResultSet}
    (hanswer : a.query start channel m.main = .ok answer) (hempty : answer.rows = []) :
    runFrom start (sendMutation a channel m) =
      runFrom (start ++ [.query channel m.main]) (do
        sendAll a channel m.relations
        return 0) := by
  have hcoerced : coerce answer = .ok answer := by
    rw [coerce, hempty]
    cases answer
    obtain rfl := hempty
    rfl
  have hlength : answer.length = 0 := by rw [ResultSet.length, hempty, List.length_nil]
  rw [sendMutation, hid]
  dsimp only
  rw [runFrom_bind, sendMain, if_pos hrows, runFrom_bind, runFrom_fetch, hanswer]
  dsimp only
  rw [hcoerced]
  dsimp only
  rw [runFrom_pure]
  dsimp only
  rw [hlength]

/-- The statements of a mutation after an empty answer: if they are all accepted they are all sent,
else the mutation fails. One of them is accepted if the first one is. -/
theorem sent_of_isEmpty {m : Mutation} {s : Statement} {rest : List Statement}
    (hrelations : m.relations = s :: rest) (hid : m.generatedId = none)
    (hrows : m.main.returnsRows) {answer : ResultSet}
    (hanswer : a.query start channel m.main = .ok answer) (hempty : answer.rows = []) :
    ∃ result sent, runFrom start (sendMutation a channel m) =
        (result, start ++ .query channel m.main :: sent) ∧
      (∀ call ∈ sent, call.SendsOver channel) ∧
      (a.AcceptsOneOf m.relations (start ++ [.query channel m.main]) sent ↔
        a.Accepts (start ++ [.query channel m.main]) (.execute channel s)) ∧
      (a.AcceptsAll channel (start ++ [.query channel m.main]) m.relations ∧ result = .ok 0 ∧
          sent = m.relations.map (.execute channel) ∨
        ¬ a.AcceptsAll channel (start ++ [.query channel m.main]) m.relations ∧
          ∃ error, result = .error error) := by
  rw [runFrom_sendMutation_of_isEmpty hid hrows hanswer hempty, runFrom_bind]
  have hmakes : Makes (Call.SendsOver channel) (sendAll a channel m.relations) :=
    makes_sendAll m.relations
  obtain ⟨sent, hhistory, hover⟩ := hmakes (start ++ [.query channel m.main])
  have hfirst := hhistory
  rw [hrelations] at hfirst
  have haccepts := acceptsOneOf_sendAll_iff hfirst
  rw [← hrelations] at haccepts
  cases hrun : runFrom (start ++ [.query channel m.main]) (sendAll a channel m.relations) with
  | mk result history =>
    rw [hrun] at hhistory
    obtain rfl : history = start ++ [.query channel m.main] ++ sent := hhistory
    rw [List.append_assoc, List.singleton_append]
    cases result with
    | ok done =>
      have hall := acceptsAll_of_runFrom_sendAll (congrArg Prod.fst hrun)
      have hsent := congrArg Prod.snd ((runFrom_sendAll_of_acceptsAll hall).symm.trans hrun)
      obtain rfl : m.relations.map (.execute channel) = sent := List.append_cancel_left hsent
      exact ⟨_, _, rfl, hover, haccepts, Or.inl ⟨hall, rfl, rfl⟩⟩
    | error error =>
      refine ⟨_, _, rfl, hover, haccepts, Or.inr ⟨fun hall => ?_, error, rfl⟩⟩
      rw [runFrom_sendAll_of_acceptsAll hall] at hrun
      cases hrun

section NoRows

variable {x : Executor} {q : Query} {m : Mutation} {s : Statement} {rest : List Statement}
  {answer : ResultSet} (hm : x.compiler.mutation q = .ok m) (haction : q.action = .update)
  (hrelations : m.relations = s :: rest) (hrows : m.main.returnsRows) (hempty : answer.rows = [])
include hm haction hrelations hrows hempty

/-- By itself, an update whose main statement finds no rows leaves its statements on join tables in
effect if and only if the adapter accepts them all and the commit. -/
theorem keepsOneOf_writeAlone_iff (hbegin : x.adapter.begin start none = .ok ())
    (hanswer : x.adapter.query (start ++ [.begin none]) .transaction m.main = .ok answer) :
    ∃ made, (runFrom start (writeAlone x q)).2 = start ++ made ∧
      (x.adapter.KeepsOneOf m.relations start made ↔
        x.adapter.AcceptsAll .transaction (start ++ [.begin none, .query .transaction m.main])
            m.relations ∧
          x.adapter.commit (start ++ .begin none :: .query .transaction m.main ::
            m.relations.map (.execute .transaction)) = .ok ()) := by
  have hid := generatedId_of_update hm haction
  have hsome : ¬ m.relations.isEmpty := by rw [hrelations]; exact Bool.noConfusion
  have hbegun : begin x.adapter none = call (.begin none) fun before => x.adapter.begin before none :=
    rfl
  obtain ⟨result, sent, hrun, hover, haccepts, hall⟩ :=
    sent_of_isEmpty hrelations hid hrows hanswer hempty
  rw [writeAlone, runFrom_bind, hm, ofCompiled, runFrom_pure]
  dsimp only
  rw [if_neg hsome, runFrom_bind, hbegun, runFrom_call, hbegin]
  dsimp only
  rw [runFrom_bind, runFrom_attempt, hrun]
  dsimp only
  rw [runFrom_close]
  have hcalls : ∀ call ∈ .query .transaction m.main :: sent, call.SendsOver .transaction :=
    List.forall_mem_cons.mpr ⟨rfl, hover⟩
  rw [List.append_assoc, List.singleton_append] at haccepts hall
  rcases hall with ⟨hall, rfl, rfl⟩ | ⟨hrefused, error, rfl⟩
  · refine ⟨.begin none :: (.query .transaction m.main ::
      m.relations.map (.execute .transaction)) ++ [.commit], by simp, ?_⟩
    rw [List.cons_append, keepsOneOf_begin_iff, keepsOneOf_append_iff hcalls id,
      acceptsOneOf_query_iff, List.append_assoc start, List.append_assoc start,
      List.singleton_append, List.singleton_append]
    have hfirst := hall
    rw [hrelations] at hfirst
    exact and_congr_left fun _ => iff_of_true (haccepts.mpr hfirst.1) hall
  · refine ⟨.begin none :: (.query .transaction m.main :: sent) ++ [.rollback], by simp, ?_⟩
    refine iff_of_false (fun hkeeps => ?_) fun h => hrefused h.1
    rw [List.cons_append, keepsOneOf_begin_iff, keepsOneOf_append_iff hcalls id] at hkeeps
    exact hkeeps.2

/-- In an open transaction that is committed then, an update whose main statement finds no rows leaves
one of its statements on join tables in effect if and only if the adapter accepts the first one. -/
theorem keepsOneOf_writeInside_iff
    (hanswer : x.adapter.query start .transaction m.main = .ok answer) :
    ∃ made, (runFrom start (writeInside x q)).2 = start ++ made ∧
      (x.adapter.KeepsOneOf m.relations start (made ++ [.commit]) ↔
        x.adapter.Accepts (start ++ [.query .transaction m.main]) (.execute .transaction s) ∧
          x.adapter.commit (start ++ made) = .ok ()) := by
  have hid := generatedId_of_update hm haction
  obtain ⟨result, sent, hrun, hover, haccepts, -⟩ :=
    sent_of_isEmpty hrelations hid hrows hanswer hempty
  rw [writeInside, runFrom_bind, hm, ofCompiled, runFrom_pure]
  dsimp only
  rw [hrun]
  refine ⟨_, rfl, ?_⟩
  have hcalls : ∀ call ∈ .query .transaction m.main :: sent, call.SendsOver .transaction :=
    List.forall_mem_cons.mpr ⟨rfl, hover⟩
  rw [keepsOneOf_append_iff hcalls id, acceptsOneOf_query_iff, haccepts]
  rfl

end NoRows

/-- What an update leaves in effect of its statements on join tables, if it has some and its main
statement returns rows and finds none. By itself it leaves them in effect if and only if the adapter
accepts them all and the commit; in an open transaction that is committed then, it does so if and
only if the adapter accepts the first one. -/
theorem keepsOneOf_iff {x : Executor} {q : Query} {m : Mutation} {s : Statement}
    {rest : List Statement} (hm : x.compiler.mutation q = .ok m) (haction : q.action = .update)
    (hrelations : m.relations = s :: rest) (hrows : m.main.returnsRows) {answer : ResultSet}
    (hempty : answer.rows = []) (start : History) :
    (x.adapter.begin start none = .ok () →
      x.adapter.query (start ++ [.begin none]) .transaction m.main = .ok answer →
      ∃ made, (runFrom start (writeAlone x q)).2 = start ++ made ∧
        (x.adapter.KeepsOneOf m.relations start made ↔
          x.adapter.AcceptsAll .transaction (start ++ [.begin none, .query .transaction m.main])
              m.relations ∧
            x.adapter.commit (start ++ .begin none :: .query .transaction m.main ::
              m.relations.map (.execute .transaction)) = .ok ())) ∧
    (x.adapter.query start .transaction m.main = .ok answer →
      ∃ made, (runFrom start (writeInside x q)).2 = start ++ made ∧
        (x.adapter.KeepsOneOf m.relations start (made ++ [.commit]) ↔
          x.adapter.Accepts (start ++ [.query .transaction m.main]) (.execute .transaction s) ∧
            x.adapter.commit (start ++ made) = .ok ())) :=
  ⟨keepsOneOf_writeAlone_iff hm haction hrelations hrows hempty,
    keepsOneOf_writeInside_iff hm haction hrelations hrows hempty⟩

/-! ## A post of another owner -/

/-- Connects a post with a tag, if it has a certain owner. -/
def connectPost : Query :=
  { model := "Post", action := .update
    arguments :=
      { filter := some [("id", .literal (.int 1)), ("ownerId", .literal (.int 2))]
        data := some (.one [("tags", .relation { connect := [⟨"id", .int 7⟩] })]) } }

/-- The statements that connect the post. The first one alone asks for the owner. -/
def connection : Mutation :=
  { main :=
      { sql := "SELECT * FROM \"posts\" WHERE \"id\" = $1 AND \"ownerId\" = $2"
        args := [.int 1, .int 2], returnsRows := true }
    relations :=
      [{ sql := "INSERT INTO \"post_tags\" (\"A\",\"B\") VALUES ($1,$2) ON CONFLICT DO NOTHING"
         args := [.int 1, .int 7] }] }

theorem mutation_connectPost : posts.compiler.mutation connectPost = .ok connection := by
  with_unfolding_all rfl

/-- A database that accepts everything but commits, and returns nothing. -/
def undecidedAdapter : Adapter :=
  { silentAdapter with commit := fun _ => .error (.transactionClosed "commit") }

/-- If the post is not found, and the commit fails, then it is not connected. -/
theorem keepsOneOf_connectPost_undecided :
    ∃ made, (runFrom [] (writeAlone ⟨undecidedAdapter, posts.compiler⟩ connectPost)).2 =
      [] ++ made ∧ ¬ undecidedAdapter.KeepsOneOf connection.relations [] made := by
  have hanswer : undecidedAdapter.query [.begin none] .transaction connection.main = .ok {} := rfl
  obtain ⟨made, hhistory, hkeeps⟩ :=
    (keepsOneOf_iff (x := ⟨undecidedAdapter, posts.compiler⟩) mutation_connectPost
      rfl rfl rfl rfl []).1 rfl hanswer
  refine ⟨made, hhistory, fun h => ?_⟩
  cases (hkeeps.mp h).2

/-- If the post is not found, it is connected all the same. -/
theorem keepsOneOf_connectPost :
    ∃ made, posts.compiler.mutation connectPost = .ok connection ∧ connection.main.returnsRows ∧
      posts.adapter.query [.begin none] .transaction connection.main = .ok {} ∧
      runFrom [] (writeAlone posts connectPost) = (.ok 0, made) ∧
      posts.adapter.KeepsOneOf connection.relations [] made := by
  have hrun : runFrom [] (writeAlone posts connectPost) =
      (.ok 0, .begin none :: .query .transaction connection.main ::
        connection.relations.map (.execute .transaction) ++ [.commit]) := by
    rw [writeAlone, mutation_connectPost]
    rfl
  refine ⟨_, mutation_connectPost, rfl, rfl, hrun, ?_⟩
  exact Or.inr (Or.inr (Or.inl ⟨List.mem_cons_self, ⟨0, rfl⟩, Or.inr rfl⟩))

end Execute

end RelationalQuery
