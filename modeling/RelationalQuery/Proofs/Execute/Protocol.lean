import RelationalQuery.Proofs.Compile.Connected
import RelationalQuery.Proofs.Execute.Unmatched
import RelationalQuery.Proofs.Value.Decimal

/-!
# The calls of a mutation

A mutation that connects rows is a fixed sequence of calls: the beginning of a transaction, the main
statement, one statement for each row that is connected or disconnected, and the commit.
`follows_writeAlone` says that a run makes exactly these calls in this order, up to the first thing
that goes wrong. From there on it makes one call more, the rollback, and fails with what went wrong,
whatever the adapter answers to the rollback. Where the beginning or the commit fails there is
nothing left to roll back.

## Shape of the protocol

`Follows` has one case for each point where a run may end. What a run does with the answer to its
main statement is told apart: `SendsMain` says which statements are left to send, and under which id.
-/

namespace RelationalQuery

/-! ## Ids of created rows -/

namespace ResultSet

/-- Whether the first row holds an id in the first column of a name. -/
def Returns (r : ResultSet) (column : String) (id : Value) : Prop :=
  ∃ (index : Nat) (row : Row), r.names[index]? = some column ∧
    (∀ i < index, r.names[i]? ≠ some column) ∧ r.rows.head? = some row ∧
    row[index]? = some id ∧ id ≠ .null

/-- The id that an answer tells of a created row: the one that is returned, else the last one that
was inserted, as a number if it is one. -/
inductive Identifies (r : ResultSet) (column : String) : Value → Prop
  | returned {id : Value} (h : r.Returns column id) : Identifies r column id
  | number {text : String} {n : Int64} (not_returned : ∀ id, ¬ r.Returns column id)
    (last : r.lastInsertId = some text) (spelled : Value.Spells text.toList n.toInt) :
    Identifies r column (.int n)
  | text {text : String} (not_returned : ∀ id, ¬ r.Returns column id)
    (last : r.lastInsertId = some text)
    (unspelled : ∀ n : Int64, ¬ Value.Spells text.toList n.toInt) :
    Identifies r column (.text text)

/-- The index of a column is the first one at which its name stands. -/
theorem columnIndex_eq_some_iff {r : ResultSet} {column : String} {index : Nat} :
    r.columnIndex column = some index ↔
      r.names[index]? = some column ∧ ∀ i < index, r.names[i]? ≠ some column := by
  rw [columnIndex, List.findIdx?_eq_some_iff_getElem]
  simp only [beq_iff_eq, List.getElem?_eq_some_iff, ne_eq, not_exists]
  constructor
  · rintro ⟨hlt, hfound, hfirst⟩
    exact ⟨⟨hlt, hfound⟩, fun i hi _ => hfirst i hi⟩
  · rintro ⟨⟨hlt, hfound⟩, hfirst⟩
    exact ⟨hlt, hfound, fun i hi => hfirst i hi _⟩

end ResultSet

/-- The statement with an id as its first argument, under the tag of the id. -/
def Statement.bindingId (id : Value) (s : Statement) : Statement :=
  { s with args := id :: s.args.tail, argTypes := BindType.of id :: s.argTypes.tail }

namespace Execute

open Compile (present present_eq_some_iff)

variable {a : Adapter} {start : History} {m : Mutation}

/-- What is looked up in the first row is what that row returns. -/
theorem returned_eq_some_iff {r : ResultSet} {column : String} {id : Value} :
    (do
      let index ← r.columnIndex column
      let row ← r.rows.head?
      present row[index]?) = some id ↔ r.Returns column id := by
  simp only [Option.bind_eq_bind, Option.bind_eq_some_iff, present_eq_some_iff, ResultSet.Returns,
    ResultSet.columnIndex_eq_some_iff, and_assoc, exists_and_left]

/-- An id is generated if an answer tells of it. -/
theorem generatedId_eq_some_iff {r : ResultSet} {column : String} {id : Value} :
    generatedId r column = some id ↔ r.Identifies column id := by
  rw [generatedId]
  split
  · next found hfound =>
    have hreturns := returned_eq_some_iff.mp hfound
    constructor
    · intro h
      exact .returned (Option.some.inj h ▸ hreturns)
    · intro h
      cases h with
      | returned h => exact hfound.symm.trans (returned_eq_some_iff.mpr h)
      | number not_returned => exact absurd hreturns (not_returned found)
      | text not_returned => exact absurd hreturns (not_returned found)
  · next hnone =>
    have hnot (id : Value) : ¬ r.Returns column id := by
      intro h
      rw [returned_eq_some_iff.mpr h] at hnone
      cases hnone
    constructor
    · intro h
      obtain ⟨text, hlast, h⟩ := Option.map_eq_some_iff.mp h
      cases hreads : Value.decimalInt? text.toList >>= Value.int64? with
      | some n =>
        rw [hreads] at h
        exact h ▸ .number hnot hlast (Value.decimalInt?_bind_int64?_eq_some_iff.mp hreads)
      | none =>
        rw [hreads] at h
        refine h ▸ .text hnot hlast fun n hspells => ?_
        cases hreads.symm.trans (Value.decimalInt?_bind_int64?_eq_some_iff.mpr hspells)
    · intro h
      cases h with
      | returned h => exact absurd h (hnot id)
      | @number text n _ last spelled =>
        have hreads : Value.decimalInt? text.toList >>= Value.int64? = some n :=
          Value.decimalInt?_bind_int64?_eq_some_iff.mpr spelled
        simp only [last, hreads, Option.map_some]
      | @text text _ last unspelled =>
        have hreads : Value.decimalInt? text.toList >>= Value.int64? = none :=
          Option.eq_none_iff_forall_not_mem.mpr fun n hn =>
            unspelled n (Value.decimalInt?_bind_int64?_eq_some_iff.mp hn)
        simp only [last, hreads, Option.map_some]

/-- The statements of a mutation that is compiled bind an id as their first argument. -/
theorem bindGeneratedId_of_mutation {k : Compiler} {q : Query} (h : k.mutation q = .ok m)
    (id : Value) : m.bindGeneratedId id = m.relations.map (Statement.bindingId id) := by
  refine List.map_congr_left fun s hs => ?_
  obtain ⟨other, change, hmade⟩ := Compiler.exists_madeBy_of_mem_relations h hs
  rw [hmade.tagged.withFirstArg_eq hmade.args, Statement.bindingId, hmade.tagged, hmade.args]
  rfl

/-! ## The main statement -/

/-- What comes of a statement that is sent for its rows: the rows, or an error. -/
inductive Fetches (a : Adapter) (before : History) (s : Statement) :
    Except ExecutionError ResultSet → Prop
  | refused {failure : AdapterError} (h : a.query before .transaction s = .error failure) :
    Fetches a before s (.error (.adapter failure))
  | unread {answer : ResultSet} {error : ExecutionError}
    (h : a.query before .transaction s = .ok answer) (coerced : coerce answer = .error error) :
    Fetches a before s (.error error)
  | rows {answer rows : ResultSet} (h : a.query before .transaction s = .ok answer)
    (coerced : coerce answer = .ok rows) : Fetches a before s (.ok rows)

/-- What comes of the main statement of a mutation: the call that sends it, and the number of rows
together with the statements that are left to send, or an error. -/
inductive SendsMain (a : Adapter) (before : History) (m : Mutation) :
    Call → Except ExecutionError (Nat × List Statement) → Prop
  | notExecuted {failure : AdapterError} (id_known : m.generatedId = none)
    (no_rows : m.main.returnsRows = false)
    (h : a.execute before .transaction m.main = .error failure) :
    SendsMain a before m (.execute .transaction m.main) (.error (.adapter failure))
  | executed {count : Nat} (id_known : m.generatedId = none) (no_rows : m.main.returnsRows = false)
    (h : a.execute before .transaction m.main = .ok count) :
    SendsMain a before m (.execute .transaction m.main) (.ok (count, m.relations))
  | notFetched {error : ExecutionError}
    (asks : m.generatedId ≠ none ∨ m.main.returnsRows = true)
    (h : Fetches a before m.main (.error error)) :
    SendsMain a before m (.query .transaction m.main) (.error error)
  | fetched {rows : ResultSet} (id_known : m.generatedId = none)
    (returns : m.main.returnsRows = true) (h : Fetches a before m.main (.ok rows)) :
    SendsMain a before m (.query .transaction m.main) (.ok (rows.length, m.relations))
  | notIdentified {column : String} {rows : ResultSet} (generated : m.generatedId = some column)
    (h : Fetches a before m.main (.ok rows)) (no_id : ∀ id, ¬ rows.Identifies column id) :
    SendsMain a before m (.query .transaction m.main) (.error (.missingGeneratedId column))
  | identified {column : String} {rows : ResultSet} {id : Value}
    (generated : m.generatedId = some column) (h : Fetches a before m.main (.ok rows))
    (identifies : rows.Identifies column id) :
    SendsMain a before m (.query .transaction m.main)
      (.ok (max rows.length 1, m.relations.map (Statement.bindingId id)))

/-- A statement that is sent for its rows makes one call. -/
theorem fetches_fetch (a : Adapter) (start : History) (s : Statement) :
    ∃ outcome, Fetches a start s outcome ∧
      runFrom start (fetch a .transaction s) = (outcome, start ++ [.query .transaction s]) := by
  rw [runFrom_fetch]
  cases hanswer : a.query start .transaction s with
  | error failure => exact ⟨_, .refused hanswer, rfl⟩
  | ok answer =>
    dsimp only
    cases hcoerced : coerce answer with
    | error error => exact ⟨_, .unread hanswer hcoerced, rfl⟩
    | ok rows => exact ⟨_, .rows hanswer hcoerced, rfl⟩

/-- What is left to do of a mutation when its main statement is sent. -/
def sendRest (a : Adapter) : Except ExecutionError (Nat × List Statement) → Session Nat
  | .error error => throw error
  | .ok (count, statements) => do
    sendAll a .transaction statements
    return count

/-- A mutation makes one call for its main statement, and then sends what this leaves to send. -/
theorem sendsMain_sendMutation (hbinds : ∀ id, m.bindGeneratedId id =
      m.relations.map (Statement.bindingId id)) (start : History) :
    ∃ main outcome, SendsMain a start m main outcome ∧
      runFrom start (sendMutation a .transaction m) =
        runFrom (start ++ [main]) (sendRest a outcome) := by
  obtain ⟨outcome, hfetches, hfetch⟩ := fetches_fetch a start m.main
  cases hid : m.generatedId with
  | none =>
    rw [sendMutation, hid]
    dsimp only
    rw [runFrom_bind, sendMain]
    cases hrows : m.main.returnsRows with
    | true =>
      rw [if_pos rfl, runFrom_bind, hfetch]
      cases outcome with
      | error error => exact ⟨_, _, .notFetched (.inr hrows) hfetches, rfl⟩
      | ok rows => exact ⟨_, _, .fetched hid hrows hfetches, rfl⟩
    | false =>
      rw [if_neg Bool.false_ne_true, sendExecute, runFrom_call]
      cases hanswer : a.execute start .transaction m.main with
      | error failure => exact ⟨_, _, .notExecuted hid hrows hanswer, rfl⟩
      | ok count => exact ⟨_, _, .executed hid hrows hanswer, rfl⟩
  | some column =>
    have hgenerated : m.generatedId ≠ none := by simp [hid]
    rw [sendMutation, hid]
    dsimp only
    rw [runFrom_bind, hfetch]
    cases outcome with
    | error error => exact ⟨_, _, .notFetched (.inl hgenerated) hfetches, rfl⟩
    | ok rows =>
      dsimp only
      cases hfound : generatedId rows column with
      | none =>
        refine ⟨_, _, .notIdentified hid hfetches fun id hidentifies => ?_, rfl⟩
        rw [generatedId_eq_some_iff.mpr hidentifies] at hfound
        cases hfound
      | some id =>
        refine ⟨_, _, .identified hid hfetches (generatedId_eq_some_iff.mp hfound), ?_⟩
        rw [← hbinds id]
        rfl

/-! ## The statements behind it -/

/-- Statements that are executed one after the other are all accepted, or one of them is the first
that is refused. -/
theorem acceptsAll_or_exists_refused (a : Adapter) (start : History)
    (statements : List Statement) :
    a.AcceptsAll .transaction start statements ∨
      ∃ sent s rest failure, statements = sent ++ s :: rest ∧
        a.AcceptsAll .transaction start sent ∧
        a.execute (start ++ sent.map (.execute .transaction)) .transaction s = .error failure := by
  induction statements generalizing start with
  | nil => exact .inl trivial
  | cons s rest ih =>
    cases hanswer : a.execute start .transaction s with
    | error failure =>
      refine .inr ⟨[], s, rest, failure, rfl, trivial, ?_⟩
      rw [List.map_nil, List.append_nil, hanswer]
    | ok count =>
      rcases ih (start ++ [.execute .transaction s]) with hall | hrefused
      · exact .inl ⟨⟨count, hanswer⟩, hall⟩
      · obtain ⟨sent, refused, later, failure, rfl, haccepted, hrefused⟩ := hrefused
        refine .inr ⟨s :: sent, refused, later, failure, rfl, ⟨⟨count, hanswer⟩, haccepted⟩, ?_⟩
        rwa [List.append_assoc, List.singleton_append] at hrefused

/-- Statements are sent up to the first that is refused. -/
theorem runFrom_sendAll_of_refused {sent rest : List Statement} {s : Statement}
    {failure : AdapterError} (haccepted : a.AcceptsAll .transaction start sent)
    (hrefused : a.execute (start ++ sent.map (.execute .transaction)) .transaction s =
      .error failure) :
    runFrom start (sendAll a .transaction (sent ++ s :: rest)) =
      (.error (.adapter failure), start ++ (sent ++ [s]).map (.execute .transaction)) := by
  induction sent generalizing start with
  | nil =>
    rw [List.map_nil, List.append_nil] at hrefused
    rw [List.nil_append, sendAll, runFrom_bind, sendExecute, runFrom_call, hrefused]
    rfl
  | cons first later ih =>
    obtain ⟨⟨count, hcount⟩, hlater⟩ := haccepted
    rw [List.map_cons, List.append_cons] at hrefused
    rw [List.cons_append, sendAll, runFrom_bind, sendExecute, runFrom_call, hcount]
    dsimp only
    rw [ih hlater hrefused, List.append_assoc]
    rfl

/-! ## Whole runs -/

/-- How a mutation of several statements is run after a history: what comes of it, and the calls
that are made. Whatever goes wrong after the beginning and before the commit is followed by a
rollback, of which nothing is known but that it is called. -/
inductive Follows (a : Adapter) (start : History) (m : Mutation) :
    Except ExecutionError Nat → List Call → Prop
  | notBegun {failure : AdapterError} (h : a.begin start none = .error failure) :
    Follows a start m (.error (.adapter failure)) [.begin none]
  | mainFailed {main : Call} {error : ExecutionError} (begun : a.begin start none = .ok ())
    (h : SendsMain a (start ++ [.begin none]) m main (.error error)) :
    Follows a start m (.error error) [.begin none, main, .rollback]
  | refused {main : Call} {count : Nat} {sent rest : List Statement} {s : Statement}
    {failure : AdapterError} (begun : a.begin start none = .ok ())
    (ended : SendsMain a (start ++ [.begin none]) m main (.ok (count, sent ++ s :: rest)))
    (accepted : a.AcceptsAll .transaction (start ++ [.begin none, main]) sent)
    (h : a.execute (start ++ [.begin none, main] ++ sent.map (.execute .transaction))
      .transaction s = .error failure) :
    Follows a start m (.error (.adapter failure))
      ([.begin none, main] ++ (sent ++ [s]).map (.execute .transaction) ++ [.rollback])
  | notCommitted {main : Call} {count : Nat} {statements : List Statement} {failure : AdapterError}
    (begun : a.begin start none = .ok ())
    (ended : SendsMain a (start ++ [.begin none]) m main (.ok (count, statements)))
    (accepted : a.AcceptsAll .transaction (start ++ [.begin none, main]) statements)
    (h : a.commit (start ++ [.begin none, main] ++ statements.map (.execute .transaction)) =
      .error failure) :
    Follows a start m (.error (.adapter failure))
      ([.begin none, main] ++ statements.map (.execute .transaction) ++ [.commit])
  | committed {main : Call} {count : Nat} {statements : List Statement}
    (begun : a.begin start none = .ok ())
    (ended : SendsMain a (start ++ [.begin none]) m main (.ok (count, statements)))
    (accepted : a.AcceptsAll .transaction (start ++ [.begin none, main]) statements)
    (h : a.commit (start ++ [.begin none, main] ++ statements.map (.execute .transaction)) =
      .ok ()) :
    Follows a start m (.ok count)
      ([.begin none, main] ++ statements.map (.execute .transaction) ++ [.commit])

theorem runFrom_throw (error : ExecutionError) :
    runFrom start (throw error : Session Nat) = (.error error, start) := rfl

/-- In the transaction, what the main statement leaves to send is sent up to the first statement
that is refused, and the transaction is closed. -/
theorem follows_of_sendsMain {main : Call} {outcome : Except ExecutionError (Nat × List Statement)}
    (hbegun : a.begin start none = .ok ())
    (hmain : SendsMain a (start ++ [.begin none]) m main outcome) :
    ∃ result made,
      runFrom (start ++ [.begin none, main]) (do close a (← attempt (sendRest a outcome))) =
        (result, start ++ made) ∧ Follows a start m result made := by
  rw [runFrom_bind, runFrom_attempt]
  dsimp only
  rw [runFrom_close]
  cases outcome with
  | error error =>
    refine ⟨_, _, ?_, .mainFailed hbegun hmain⟩
    rw [sendRest, runFrom_throw]
    dsimp only
    rw [List.append_assoc]
    rfl
  | ok rest =>
    obtain ⟨count, statements⟩ := rest
    rw [sendRest, runFrom_bind]
    rcases acceptsAll_or_exists_refused a (start ++ [.begin none, main]) statements with
      haccepted | ⟨sent, s, rest, failure, rfl, haccepted, hrefused⟩
    · rw [runFrom_sendAll_of_acceptsAll haccepted]
      dsimp only
      rw [runFrom_pure]
      dsimp only
      cases hcommit : a.commit
        (start ++ [.begin none, main] ++ statements.map (.execute .transaction)) with
      | error failure =>
        refine ⟨_, _, ?_, .notCommitted hbegun hmain haccepted hcommit⟩
        simp only [List.append_assoc]
      | ok committed =>
        refine ⟨_, _, ?_, .committed hbegun hmain haccepted hcommit⟩
        simp only [List.append_assoc]
    · rw [runFrom_sendAll_of_refused haccepted hrefused]
      refine ⟨_, _, ?_, .refused hbegun hmain haccepted hrefused⟩
      simp only [List.append_assoc]

/-- A query that is not compiled makes no calls. A mutation that connects rows makes the calls of
its statements in their order, in a transaction of its own, up to the first thing that goes wrong. -/
theorem follows_writeAlone (x : Executor) (q : Query) (start : History) :
    (∀ error, x.compiler.mutation q = .error error →
      runFrom start (writeAlone x q) = (.error (.compile error), start)) ∧
    ∀ m, x.compiler.mutation q = .ok m → m.relations ≠ [] →
      ∃ result made, runFrom start (writeAlone x q) = (result, start ++ made) ∧
        Follows x.adapter start m result made := by
  constructor
  · intro error hcompiled
    rw [writeAlone, runFrom_bind, hcompiled]
    rfl
  · intro m hcompiled hrelations
    have hbegin : begin x.adapter none =
      call (.begin none) fun before => x.adapter.begin before none := rfl
    have hsome : ¬ m.relations.isEmpty := by simpa using hrelations
    rw [writeAlone, runFrom_bind, hcompiled, ofCompiled, runFrom_pure]
    dsimp only
    rw [if_neg hsome, runFrom_bind, hbegin, runFrom_call]
    cases hbegun : x.adapter.begin start none with
    | error failure => exact ⟨_, _, rfl, .notBegun hbegun⟩
    | ok begun =>
      dsimp only
      obtain ⟨main, outcome, hmain, hsent⟩ :=
        sendsMain_sendMutation (a := x.adapter) (bindGeneratedId_of_mutation hcompiled)
          (start ++ [.begin none])
      obtain ⟨result, made, hrest, hfollows⟩ := follows_of_sendsMain hbegun hmain
      refine ⟨result, made, ?_, hfollows⟩
      rw [List.append_assoc] at hsent
      rw [← hrest, runFrom_bind, runFrom_bind, runFrom_attempt, runFrom_attempt, hsent]
      rfl

/-! ## A tag that cannot be connected -/

/-- A database that returns the rows that are written, and refuses the second statement on a join
table and every rollback. -/
def crowdedAdapter : Adapter :=
  { silentAdapter with
    query := fun _ _ _ =>
      .ok { names := ["title", "id"], rows := [[.text "a", .int 41]], lastInsertId := some "7" }
    execute := fun before _ _ =>
      if before.length ≤ 2 then .ok 1 else .error (.query "crowded")
    rollback := fun _ => .error (.transactionClosed "rollback") }

/-- The statement that connects the created post with a tag. -/
def tagStatement (tag : Int64) : Statement :=
  { sql := "INSERT INTO \"post_tags\" (\"A\",\"B\") VALUES ($1,$2) ON CONFLICT DO NOTHING"
    args := [.int 41, .int tag] }

/-- A post is created and connected with a tag under the id that is returned for it. The second
tag is refused, which is what the write fails with, although it cannot be rolled back. A post without
known relations is not compiled, and makes no calls. -/
theorem follows_writeAlone_createPost :
    (∃ m, posts.compiler.mutation (createPost [⟨"id", .int 1⟩, ⟨"id", .int 2⟩]) = .ok m ∧
      Follows crowdedAdapter [] m (.error (.adapter (.query "crowded")))
        [.begin none, .query .transaction m.main, .execute .transaction (tagStatement 1),
          .execute .transaction (tagStatement 2), .rollback]) ∧
      ∃ error, runFrom [] (writeAlone ⟨crowdedAdapter, { dialect := .postgres }⟩ (createPost [])) =
        (.error (.compile error), []) := by
  constructor
  · obtain ⟨m, hm, hrelations, hrun⟩ : ∃ m,
        posts.compiler.mutation (createPost [⟨"id", .int 1⟩, ⟨"id", .int 2⟩]) = .ok m ∧
        m.relations ≠ [] ∧
        runFrom [] (writeAlone ⟨crowdedAdapter, posts.compiler⟩
          (createPost [⟨"id", .int 1⟩, ⟨"id", .int 2⟩])) =
            (.error (.adapter (.query "crowded")),
              [.begin none, .query .transaction m.main, .execute .transaction (tagStatement 1),
                .execute .transaction (tagStatement 2), .rollback]) :=
      ⟨_, rfl, List.cons_ne_nil _ _, rfl⟩
    obtain ⟨result, made, hmade, hfollows⟩ :=
      (follows_writeAlone ⟨crowdedAdapter, posts.compiler⟩ _ []).2 m hm hrelations
    rw [hrun] at hmade
    obtain ⟨rfl, rfl⟩ := Prod.mk.inj hmade
    exact ⟨m, hm, hfollows⟩
  · exact ⟨_, (follows_writeAlone _ _ []).1 _ rfl⟩

end Execute

end RelationalQuery
