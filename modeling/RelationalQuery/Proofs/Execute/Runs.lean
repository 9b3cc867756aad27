import RelationalQuery.Execute.Operation

/-!
# Runs

What a piece of work comes to after a history, and which calls it adds to the history. `runFrom`
takes work apart at its sequences, down to single calls, which the adapter answers. `Makes` says
that all calls of a piece of work have a property, whatever the adapter answers.
-/

namespace RelationalQuery

/-- Whether a call sends a statement over a channel. -/
def Call.SendsOver (channel : Channel) : Call → Prop
  | query used _ => used = channel
  | execute used _ => used = channel
  | _ => False

namespace Execute

variable {α β : Type} {a : Adapter} {channel : Channel}

/-- The result of a piece of work after a history, and the history that it leaves. -/
def runFrom (start : History) (work : Session α) : Except ExecutionError α × History :=
  work.run.run start

theorem runFrom_pure (start : History) (result : α) :
    runFrom start (pure result : Session α) = (.ok result, start) := rfl

/-- A sequence goes on from the history that its first part leaves, unless that part fails. -/
theorem runFrom_bind (start : History) (work : Session α) (next : α → Session β) :
    runFrom start (work >>= next) =
      match runFrom start work with
      | (.ok result, history) => runFrom history (next result)
      | (.error error, history) => (.error error, history) := by
  show (fun run : Except ExecutionError α × History =>
    StateT.run (ExceptT.bindCont next run.1) run.2) (runFrom start work) = _
  cases runFrom start work with
  | mk result history => cases result <;> rfl

/-- A sequence that fails does so in its first part, or in its second part after the first. -/
theorem runFrom_bind_error {start history : History} {work : Session α} {next : α → Session β}
    {error : ExecutionError} (h : runFrom start (work >>= next) = (.error error, history)) :
    runFrom start work = (.error error, history) ∨
      ∃ result between, runFrom start work = (.ok result, between) ∧
        runFrom between (next result) = (.error error, history) := by
  rw [runFrom_bind] at h
  cases hrun : runFrom start work with
  | mk result between =>
    rw [hrun] at h
    cases result with
    | error failure =>
      obtain ⟨hfailure, rfl⟩ := Prod.mk.inj h
      obtain rfl := Except.error.inj hfailure
      exact Or.inl rfl
    | ok result => exact Or.inr ⟨result, between, rfl, h⟩

/-- A call is answered by the adapter, and stands at the end of the history. -/
theorem runFrom_call (start : History) (made : Call) (answer : History → Except AdapterError α) :
    runFrom start (call made answer) =
      (match answer start with
        | .ok result => .ok result
        | .error error => .error (.adapter error), start ++ [made]) := by
  show runFrom (start ++ [made]) (ofAdapter (answer start)) = _
  cases answer start <;> rfl

/-- A failure that is an answer leaves the same history. -/
theorem runFrom_attempt (start : History) (work : Session α) :
    runFrom start (attempt work) = (.ok (runFrom start work).1, (runFrom start work).2) := rfl

/-- What is fetched is the answer of the adapter, as its columns declare it. -/
theorem runFrom_fetch (start : History) (s : Statement) :
    runFrom start (fetch a channel s) =
      (match a.query start channel s with
        | .ok answer => coerce answer
        | .error error => .error (.adapter error), start ++ [.query channel s]) := by
  rw [fetch, runFrom_bind, sendQuery, runFrom_call]
  cases a.query start channel s with
  | error error => rfl
  | ok answer =>
    dsimp only
    cases coerce answer <;> rfl

/-! ## The calls of a piece of work -/

/-- Whether all calls that a piece of work adds to a history have a property. -/
def Makes (p : Call → Prop) (work : Session α) : Prop :=
  ∀ start, ∃ made, (runFrom start work).2 = start ++ made ∧ ∀ call ∈ made, p call

variable {p : Call → Prop}

theorem makes_pure (result : α) : Makes p (pure result : Session α) := by
  intro start
  exact ⟨[], (List.append_nil start).symm, fun call h => absurd h List.not_mem_nil⟩

theorem makes_throw (error : ExecutionError) : Makes p (throw error : Session α) := by
  intro start
  exact ⟨[], (List.append_nil start).symm, fun call h => absurd h List.not_mem_nil⟩

theorem makes_call {made : Call} (h : p made) (answer : History → Except AdapterError α) :
    Makes p (call made answer) := by
  intro start
  refine ⟨[made], ?_, fun call hcall => ?_⟩
  · rw [runFrom_call]
  · rwa [List.mem_singleton.mp hcall]

theorem Makes.bind {work : Session α} {next : α → Session β} (hwork : Makes p work)
    (hnext : ∀ result, Makes p (next result)) : Makes p (work >>= next) := by
  intro start
  obtain ⟨made, hhistory, hmade⟩ := hwork start
  rw [runFrom_bind]
  cases hrun : runFrom start work with
  | mk result history =>
    rw [hrun] at hhistory
    cases result with
    | error error => exact ⟨made, hhistory, hmade⟩
    | ok result =>
      obtain ⟨made', hhistory', hmade'⟩ := hnext result history
      -- the calls of the second part stand behind those of the first
      refine ⟨made ++ made', ?_, fun call hcall => ?_⟩
      · rw [← List.append_assoc, ← show history = start ++ made from hhistory]
        exact hhistory'
      · rcases List.mem_append.mp hcall with hcall | hcall
        · exact hmade call hcall
        · exact hmade' call hcall

/-! ## Sending statements -/

theorem makes_fetch (s : Statement) : Makes (Call.SendsOver channel) (fetch a channel s) := by
  have hcall : (Call.query channel s).SendsOver channel := rfl
  refine (makes_call hcall _).bind fun answer => ?_
  split
  · exact makes_pure _
  · exact makes_throw _

theorem makes_sendExecute (s : Statement) :
    Makes (Call.SendsOver channel) (sendExecute a channel s) := by
  have hcall : (Call.execute channel s).SendsOver channel := rfl
  exact makes_call hcall _

theorem makes_sendAll (statements : List Statement) :
    Makes (Call.SendsOver channel) (sendAll a channel statements) := by
  induction statements with
  | nil => exact makes_pure ()
  | cons statement rest ih => exact (makes_sendExecute statement).bind fun _ => ih

theorem makes_sendMain (s : Statement) : Makes (Call.SendsOver channel) (sendMain a channel s) := by
  rw [sendMain]
  split
  · exact (makes_fetch s).bind fun _ => makes_pure _
  · exact makes_sendExecute s

/-- A mutation is sent as statements over its channel, and nothing else. -/
theorem makes_sendMutation (m : Mutation) :
    Makes (Call.SendsOver channel) (sendMutation a channel m) := by
  rw [sendMutation]
  split
  · refine (makes_sendMain m.main).bind fun affected => ?_
    exact (makes_sendAll m.relations).bind fun _ => makes_pure affected
  · refine (makes_fetch m.main).bind fun result => ?_
    split
    · exact makes_throw _
    · exact (makes_sendAll _).bind fun _ => makes_pure _

end Execute

end RelationalQuery
