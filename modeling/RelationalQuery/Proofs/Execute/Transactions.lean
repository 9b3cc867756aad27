import RelationalQuery.Execute.Transaction
import RelationalQuery.Proofs.Execute.Effects

/-!
# Transactions are begun and closed once

`Transacts` says how a transaction should go, whatever the adapter answers and whatever the callback
does. Either it is refused, because its level is not supported or it cannot be begun, and nothing of
the callback runs. Or it is begun once, the callback sends all its statements in it, and one commit or
one rollback closes it, as the outcome of the callback demands.

`transacts_iff_not_breaksInCall` says that every transaction goes like this but one: if the callback
breaks down while it is called, and not in the work that it returns, the transaction is left open.

## Shape of the argument

An operation in a transaction makes calls over the channel `.transaction` only, so by induction a
callback and its work do too (`SendsInside`): they cannot begin or close a transaction, nor reach the
connection around it. What is left are the calls of `begin` and `close` before and behind those of
the callback.
-/

namespace RelationalQuery.Execute

variable {α : Type} {a : Adapter} {channel : Channel}

/-! ## Operations in a transaction -/

/-- To hand over what was compiled makes no calls. -/
theorem makes_ofCompiled {p : Call → Prop} (compiled : Except CompileError α) :
    Makes p (ofCompiled compiled) := by
  cases compiled with
  | ok result => exact makes_pure result
  | error error => exact makes_throw _

theorem makes_queryRows (x : Executor) (q : Query) :
    Makes (Call.SendsOver channel) (queryRows x channel q) := by
  refine (makes_ofCompiled _).bind fun s => ?_
  exact makes_fetch s

theorem makes_queryRecords (x : Executor) (q : Query) :
    Makes (Call.SendsOver channel) (queryRecords x channel q) := by
  refine (makes_ofCompiled _).bind fun s => ?_
  exact (makes_fetch s).bind fun _ => makes_pure _

theorem makes_queryRecord (x : Executor) (q : Query) :
    Makes (Call.SendsOver channel) (queryRecord x channel q) := by
  refine (makes_queryRecords x q).bind fun found => ?_
  split
  · exact makes_pure _
  · split
    · exact makes_throw _
    · exact makes_pure _

theorem makes_queryCount (x : Executor) (q : Query) :
    Makes (Call.SendsOver channel) (queryCount x channel q) := by
  refine (makes_queryRows x q).bind fun rows => ?_
  split
  · exact makes_pure _
  · exact makes_throw _

theorem makes_writeInside (x : Executor) (q : Query) :
    Makes (Call.SendsOver .transaction) (writeInside x q) := by
  refine (makes_ofCompiled _).bind fun m => ?_
  exact makes_sendMutation m

/-- An operation in a transaction sends its statements over the transaction, and makes no other
calls. -/
theorem makes_perform (x : Executor) (operation : Operation) :
    Makes (Call.SendsOver .transaction) (perform x .transaction operation) := by
  cases operation with
  | rows q => exact (makes_queryRows x q).bind fun _ => makes_pure _
  | records q => exact (makes_queryRecords x q).bind fun _ => makes_pure _
  | record q => exact (makes_queryRecord x q).bind fun _ => makes_pure _
  | write q => exact (makes_writeInside x q).bind fun _ => makes_pure _
  | count q => exact (makes_queryCount x q).bind fun _ => makes_pure _

/-! ## Callbacks and their work -/

/-- Whether all calls that a run adds to a history send statements over the transaction. -/
def SendsInside {β : Type} (run : StateM History β) : Prop :=
  ∀ start, ∃ sent, (run.run start).2 = start ++ sent ∧ ∀ call ∈ sent, call.SendsOver .transaction

theorem sendsInside_pure {β : Type} (result : β) : SendsInside (pure result) := by
  intro start
  exact ⟨[], (List.append_nil start).symm, fun call h => absurd h List.not_mem_nil⟩

theorem SendsInside.bind {β γ : Type} {run : StateM History β} {next : β → StateM History γ}
    (hrun : SendsInside run) (hnext : ∀ result, SendsInside (next result)) :
    SendsInside (run >>= next) := by
  intro start
  obtain ⟨first, hfirst, hsent⟩ := hrun start
  obtain ⟨rest, hrest, hsent'⟩ := hnext (run.run start).1 (start ++ first)
  refine ⟨first ++ rest, ?_, fun call hcall => ?_⟩
  · rw [← List.append_assoc, ← hrest, ← hfirst]
    rfl
  · rcases List.mem_append.mp hcall with hcall | hcall
    · exact hsent call hcall
    · exact hsent' call hcall

/-- Also an operation whose failure is answered sends its statements over the transaction. -/
theorem sendsInside_perform (x : Executor) (operation : Operation) :
    SendsInside (perform x .transaction operation).run := makes_perform x operation

theorem Procedure.sendsInside_run (x : Executor) (p : Procedure α) : SendsInside (p.run x) := by
  induction p with
  | done result => exact sendsInside_pure _
  | fail error => exact sendsInside_pure _
  | panic => exact sendsInside_pure _
  | perform operation next ih => exact (sendsInside_perform x operation).bind ih

theorem Callback.sendsInside_call (x : Executor) (f : Callback α) : SendsInside (f.call x) := by
  induction f with
  | returns work => exact sendsInside_pure _
  | panic => exact sendsInside_pure _
  | perform operation next ih => exact (sendsInside_perform x operation).bind ih

/-- What comes of a callback in the open transaction. It breaks down if to call it does, or if its
work does. -/
def Callback.run (x : Executor) (f : Callback α) : StateM History (Outcome α) := do
  match ← f.call x with
  | none => return .panicked
  | some work => work.run x

theorem Callback.sendsInside_run (x : Executor) (f : Callback α) : SendsInside (f.run x) := by
  refine (f.sendsInside_call x).bind fun returned => ?_
  cases returned with
  | none => exact sendsInside_pure _
  | some work => exact work.sendsInside_run x

/-- What comes of a callback that returns its work is what comes of this work. -/
theorem Callback.run_eq (x : Executor) (f : Callback α) (start : History) :
    (f.run x).run start = match (f.call x).run start with
      | (none, history) => (.panicked, history)
      | (some work, history) => (work.run x).run history := by
  rw [Callback.run, StateT.run_bind]
  cases (f.call x).run start with
  | mk returned history => cases returned <;> rfl

/-! ## The end of a transaction -/

/-- How the outcome of a procedure closes its transaction: the call that is made after a history,
and what comes of the whole. A failure or breakdown stays what it is, whatever the adapter answers
to the rollback. -/
inductive Closes (a : Adapter) (before : History) : Outcome α → Call → Outcome α → Prop
  | committed {result : α} (h : a.commit before = .ok ()) :
    Closes a before (.done result) .commit (.done result)
  | notCommitted {result : α} {failure : AdapterError} (h : a.commit before = .error failure) :
    Closes a before (.done result) .commit (.failed (.adapter failure))
  | rolledBack {error : ExecutionError} :
    Closes a before (.failed error) .rollback (.failed error)
  | brokenDown : Closes a before .panicked .rollback .panicked

/-- What is done in an open transaction after a procedure has run in it. -/
def closeAfter (a : Adapter) : Outcome α → StateM History (Outcome α)
  | .done result => do return .ofExcept (← (close a (.ok result)).run)
  | .failed error => do return .ofExcept (← (close a (.error error)).run)
  | .panicked => do
    let _ ← (call .rollback a.rollback).run
    return .panicked

/-- Work whose failure is caught goes on with what came of it, from the history that it leaves. -/
theorem run_run_bind {β : Type} (work : Session α) (next : Except ExecutionError α →
    StateM History β) (start : History) :
    (do next (← work.run)).run start = (next (runFrom start work).1).run (runFrom start work).2 :=
  rfl

/-- A transaction is closed by a single call. -/
theorem closes_closeAfter (inner : Outcome α) (before : History) :
    ∃ closing outcome, (closeAfter a inner).run before = (outcome, before ++ [closing]) ∧
      Closes a before inner closing outcome := by
  cases inner with
  | done result =>
    rw [closeAfter, run_run_bind, runFrom_close]
    cases hcommit : a.commit before with
    | ok committed => exact ⟨.commit, .done result, rfl, .committed hcommit⟩
    | error failure => exact ⟨.commit, .failed (.adapter failure), rfl, .notCommitted hcommit⟩
  | failed error =>
    rw [closeAfter, run_run_bind, runFrom_close]
    exact ⟨.rollback, .failed error, rfl, .rolledBack⟩
  | panicked =>
    rw [closeAfter, run_run_bind, runFrom_call]
    exact ⟨.rollback, .panicked, rfl, .brokenDown⟩

/-! ## Whole transactions -/

/-- Whether a transaction is begun after a history: its level is supported, and the adapter begins
it. -/
structure Begins (a : Adapter) (level : Option IsolationLevel) (start : History) : Prop where
  supported (wanted : IsolationLevel) (h : level = some wanted) :
    wanted.checkSupported a.flavour = .ok ()
  begun : a.begin start level = .ok ()

/-- How a callback should go in a transaction of its own that starts after a history: what comes of
it, and the calls that are made. -/
inductive Transacts (x : Executor) (level : Option IsolationLevel) (f : Callback α)
    (start : History) : Outcome α → List Call → Prop
  /-- The flavour does not support the level. -/
  | unsupported {wanted : IsolationLevel} {failure : AdapterError} (hlevel : level = some wanted)
    (h : wanted.checkSupported x.adapter.flavour = .error failure) :
    Transacts x level f start (.failed (.adapter failure)) []
  /-- The adapter does not begin a transaction. -/
  | refused {failure : AdapterError}
    (hlevel : ∀ wanted, level = some wanted → wanted.checkSupported x.adapter.flavour = .ok ())
    (h : x.adapter.begin start level = .error failure) :
    Transacts x level f start (.failed (.adapter failure)) [.begin level]
  /-- The callback runs after the beginning, and its outcome closes the transaction. -/
  | closed {sent : List Call} {closing : Call} {inner outcome : Outcome α}
    (hbegins : Begins x.adapter level start)
    (hrun : (f.run x).run (start ++ [.begin level]) = (inner, start ++ [.begin level] ++ sent))
    (hsent : ∀ call ∈ sent, call.SendsOver .transaction)
    (hclosed : Closes x.adapter (start ++ [.begin level] ++ sent) inner closing outcome) :
    Transacts x level f start outcome (.begin level :: sent ++ [closing])

/-- Whether a callback breaks down while it is called, in a transaction that has begun. -/
structure BreaksInCall (x : Executor) (level : Option IsolationLevel) (f : Callback α)
    (start : History) : Prop where
  begins : Begins x.adapter level start
  panics : ((f.call x).run (start ++ [.begin level])).1 = none

/-- How a transaction goes that nothing closes: the breakdown goes through, and behind the beginning
stand only the statements of the callback. -/
structure LeftOpen (level : Option IsolationLevel) (outcome : Outcome α) (made : List Call) :
    Prop where
  panicked : outcome = .panicked
  calls : ∃ sent, made = .begin level :: sent ∧ ∀ call ∈ sent, call.SendsOver .transaction

/-- What goes as it should is not left open. -/
theorem Transacts.not_leftOpen {x : Executor} {level : Option IsolationLevel} {f : Callback α}
    {start : History} {outcome : Outcome α} {made : List Call}
    (h : Transacts x level f start outcome made) : ¬ LeftOpen level outcome made := by
  rintro ⟨rfl, sent, hmade, hsent⟩
  cases h with
  | closed hbegins hrun _ hclosed =>
    cases hclosed with
    | brokenDown =>
      -- the rollback would be among the statements of the callback
      obtain rfl := (List.cons.inj hmade).2
      exact hsent .rollback (List.mem_append_right _ List.mem_cons_self)

/-- A transaction begins with the check of its level and one call. -/
theorem runFrom_begin (level : Option IsolationLevel) (start : History) :
    (∃ wanted failure, level = some wanted ∧ wanted.checkSupported a.flavour = .error failure ∧
      runFrom start (begin a level) = (.error (.adapter failure), start)) ∨
    ((∀ wanted, level = some wanted → wanted.checkSupported a.flavour = .ok ()) ∧
      runFrom start (begin a level) =
        runFrom start (call (.begin level) fun history => a.begin history level)) := by
  cases level with
  | none =>
    refine Or.inr ⟨fun wanted h => ?_, rfl⟩
    cases h
  | some wanted =>
    have hbegin : begin a (some wanted) = (do
        ofAdapter (wanted.checkSupported a.flavour)
        call (.begin (some wanted)) fun history => a.begin history (some wanted)) := rfl
    rw [hbegin, runFrom_bind]
    cases hcheck : wanted.checkSupported a.flavour with
    | error failure => exact Or.inl ⟨wanted, failure, rfl, hcheck, rfl⟩
    | ok supported =>
      refine Or.inr ⟨fun wanted' h => ?_, rfl⟩
      obtain rfl := Option.some.inj h
      exact hcheck

/-- A transaction is refused where it does not begin, and its callback is not called. -/
theorem transacts_of_not_begins {x : Executor} {level : Option IsolationLevel} {f : Callback α}
    {start : History} (h : ¬ Begins x.adapter level start) :
    ∃ outcome made, (runInTransaction x level f).run start = (outcome, start ++ made) ∧
      Transacts x level f start outcome made := by
  rw [runInTransaction, run_run_bind]
  rcases runFrom_begin (a := x.adapter) level start with
    ⟨wanted, failure, hlevel, hcheck, hbegin⟩ | ⟨hlevel, hbegin⟩
  · rw [hbegin]
    exact ⟨_, [], congrArg _ (List.append_nil start).symm, .unsupported hlevel hcheck⟩
  · rw [hbegin, runFrom_call]
    cases hanswer : x.adapter.begin start level with
    | error failure => exact ⟨_, [.begin level], rfl, .refused hlevel hanswer⟩
    | ok begun => exact absurd ⟨hlevel, hanswer⟩ h

section Begun

variable {x : Executor} {level : Option IsolationLevel} {f : Callback α} {start history : History}

/-- A transaction that begins goes on with the call of its callback. -/
theorem run_runInTransaction_of_begins (h : Begins x.adapter level start) :
    (runInTransaction x level f).run start = match (f.call x).run (start ++ [.begin level]) with
      | (none, history) => (.panicked, history)
      | (some work, history) =>
        (closeAfter x.adapter ((work.run x).run history).1).run ((work.run x).run history).2 := by
  have hbegin : runFrom start (begin x.adapter level) = (.ok (), start ++ [.begin level]) := by
    rcases runFrom_begin (a := x.adapter) level start with
      ⟨wanted, failure, hlevel, hcheck, -⟩ | ⟨-, hbegin⟩
    · exact absurd (hcheck.symm.trans (h.supported wanted hlevel)) (fun heq => by cases heq)
    · rw [hbegin, runFrom_call, h.begun]
  rw [runInTransaction, run_run_bind, hbegin]
  dsimp only
  rw [StateT.run_bind]
  cases (f.call x).run (start ++ [.begin level]) with
  | mk returned history =>
    cases returned with
    | none => rfl
    | some work =>
      show (do closeAfter x.adapter (← work.run x)).run history = _
      rfl

/-- If the callback returns its work, the transaction is closed behind it. -/
theorem transacts_of_call (h : Begins x.adapter level start) {work : Procedure α}
    (hcall : (f.call x).run (start ++ [.begin level]) = (some work, history)) :
    ∃ outcome made, (runInTransaction x level f).run start = (outcome, start ++ made) ∧
      Transacts x level f start outcome made := by
  obtain ⟨sent, hhistory, hsent⟩ := f.sendsInside_run x (start ++ [.begin level])
  have hrun : (f.run x).run (start ++ [.begin level]) = (work.run x).run history := by
    rw [Callback.run_eq, hcall]
  rw [hrun] at hhistory
  obtain ⟨closing, outcome, hclosing, hclosed⟩ := closes_closeAfter (a := x.adapter)
    ((work.run x).run history).1 (start ++ [.begin level] ++ sent)
  refine ⟨outcome, .begin level :: sent ++ [closing], ?_,
    .closed h (hrun.trans (Prod.ext rfl hhistory)) hsent hclosed⟩
  rw [run_runInTransaction_of_begins h, hcall]
  dsimp only
  rw [hhistory, hclosing]
  simp only [List.append_assoc, List.cons_append, List.nil_append]

/-- If the callback breaks down while it is called, nothing closes the transaction. -/
theorem leftOpen_of_breaksInCall (h : BreaksInCall x level f start) :
    ∃ made, (runInTransaction x level f).run start = (.panicked, start ++ made) ∧
      LeftOpen level (.panicked : Outcome α) made := by
  obtain ⟨sent, hhistory, hsent⟩ := f.sendsInside_call x (start ++ [.begin level])
  have hcall : (f.call x).run (start ++ [.begin level]) =
      (none, start ++ [.begin level] ++ sent) := Prod.ext h.panics hhistory
  refine ⟨.begin level :: sent, ?_, ⟨rfl, sent, rfl, hsent⟩⟩
  rw [run_runInTransaction_of_begins h.begins, hcall, List.append_assoc]
  rfl

end Begun

/-- Every transaction goes as it should, unless its callback breaks down while it is called. Then the
transaction is left open. -/
theorem transacts_iff_not_breaksInCall (x : Executor) (level : Option IsolationLevel)
    (f : Callback α) (start : History) :
    ∃ outcome made, (runInTransaction x level f).run start = (outcome, start ++ made) ∧
      (Transacts x level f start outcome made ↔ ¬ BreaksInCall x level f start) ∧
      (LeftOpen level outcome made ↔ BreaksInCall x level f start) := by
  by_cases hbreaks : BreaksInCall x level f start
  · obtain ⟨made, hrun, hopen⟩ := leftOpen_of_breaksInCall hbreaks
    exact ⟨_, made, hrun, iff_of_false (fun h => h.not_leftOpen hopen) (not_not_intro hbreaks),
      iff_of_true hopen hbreaks⟩
  · obtain ⟨outcome, made, hrun, htransacts⟩ :
        ∃ outcome made, (runInTransaction x level f).run start = (outcome, start ++ made) ∧
          Transacts x level f start outcome made := by
      by_cases hbegins : Begins x.adapter level start
      · cases hcall : (f.call x).run (start ++ [.begin level]) with
        | mk returned history =>
          cases returned with
          | none => exact absurd ⟨hbegins, congrArg Prod.fst hcall⟩ hbreaks
          | some work => exact transacts_of_call hbegins hcall
      · exact transacts_of_not_begins hbegins
    exact ⟨outcome, made, hrun, iff_of_true htransacts hbreaks,
      iff_of_false htransacts.not_leftOpen hbreaks⟩

/-- A callback that breaks down at once leaves a transaction of posts open. -/
theorem leftOpen_panic :
    (runInTransaction posts none (.panic : Callback Unit)).run [] = (.panicked, [.begin none]) ∧
      ¬ Transacts posts none (.panic : Callback Unit) [] .panicked [.begin none] := by
  refine ⟨rfl, fun htransacts => ?_⟩
  exact htransacts.not_leftOpen ⟨rfl, [], rfl, fun call hcall => absurd hcall List.not_mem_nil⟩

end RelationalQuery.Execute
