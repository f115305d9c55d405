import DocPress.Proofs.Client.Agreement

/-!
# Records of the calls of a client

The calls of any client can be written down as they are made, each with its outcome. A
run that is recorded does what it does without the record.
-/

namespace DocPress

variable {σ α : Type}

/-- The failure that a result is, if it is one. -/
def failureOf? : Except Failure α → Option Failure
  | .ok _ => none
  | .error failure => some failure

/-- A call of a client with its outcome. -/
inductive Exchange
  /-- A document was to be read. -/
  | query (id : Option String) (outcome : Except Failure Snapshot)
  /-- A batch was to be applied. -/
  | mutate (id : Option String) (requests : List Request) (outcome : Except Failure Json)
  /-- A document was to be created. -/
  | create (title : String) (outcome : Except Failure (Option String))

/-- What a call failed with, if it failed. -/
def Exchange.failure? : Exchange → Option Failure
  | .query _ outcome => failureOf? outcome
  | .mutate _ _ outcome => failureOf? outcome
  | .create _ outcome => failureOf? outcome

/-- The state of a client together with the calls made so far. -/
structure Recorded (σ : Type) where
  /-- The calls, the first one first. -/
  log : List Exchange := []
  /-- The state of the client. -/
  state : σ

/-- An action that is written down as an exchange with its outcome. -/
def Action.recorded (exchange : Except Failure α → Exchange) (action : Action σ α) :
    Action (Recorded σ) α :=
  ExceptT.mk fun recorded =>
    let (outcome, state) := action.run.run recorded.state
    (outcome, { log := recorded.log ++ [exchange outcome], state })

/-- The client that writes down its calls. -/
def Client.recorded (client : Client σ) : Client (Recorded σ) where
  query id := Action.recorded (.query id) (client.query id)
  mutate id requests := Action.recorded (.mutate id requests) (client.mutate id requests)
  create title := Action.recorded (.create title) (client.create title)

/-! ## Recording changes nothing else -/

/-- The state without the record. -/
def Tracked.bare (tracked : Tracked (Recorded σ)) : Tracked σ :=
  { generation := tracked.generation, state := tracked.state.state }

/-- Whether an action does what another one does, apart from the record. -/
def Mirrors (action : Action (Tracked (Recorded σ)) α) (bare : Action (Tracked σ) α) : Prop :=
  ∀ tracked, bare.run.run tracked.bare =
    ((action.run.run tracked).1, (action.run.run tracked).2.bare)

/-- An action that agrees with one on the states without a record does the same. -/
theorem Agrees.mirrors {action : Action (Tracked (Recorded σ)) α} {bare : Action (Tracked σ) α}
    (hagrees : Agrees (Tracked.Alike fun recorded state => recorded.state = state) action bare) :
    Mirrors action bare := by
  intro tracked
  obtain ⟨hresult, hgeneration, hstate⟩ := hagrees tracked tracked.bare ⟨rfl, rfl⟩
  rcases hbare : bare.run.run tracked.bare with ⟨result, generation, state⟩
  rw [hbare] at hresult hgeneration hstate
  rw [hresult, Tracked.bare, hgeneration, hstate]

/-- Apart from the record, a client with a record is the client. -/
theorem Client.recorded_alike (client : Client σ) :
    Client.Alike (fun recorded state => recorded.state = state) client.recorded client where
  query id := by
    rintro recorded state rfl
    exact ⟨rfl, rfl⟩
  mutate id requests := by
    rintro recorded state rfl
    exact ⟨rfl, rfl⟩
  create title := by
    rintro recorded state rfl
    exact ⟨rfl, rfl⟩

/-! ## What a run adds to the record -/

/-- An action with a record ends as it does without, and adds one exchange to the record. -/
theorem run_recorded {action : Action σ α} {state after : σ} {result : Except Failure α}
    (haction : action.run.run state = (result, after)) (exchange : Except Failure α → Exchange)
    (log : List Exchange) :
    (Action.recorded exchange action).run.run { log, state } =
      (result, { log := log ++ [exchange result], state := after }) := by
  change ((action.run.run state).1, (⟨log ++ [exchange (action.run.run state).1],
    (action.run.run state).2⟩ : Recorded σ)) = _
  rw [haction]

theorem log_of_run_recorded {exchange : Except Failure α → Exchange} {action : Action σ α}
    {before after : Recorded σ} {outcome : Except Failure α}
    (hrun : (action.recorded exchange).run.run before = (outcome, after)) :
    after.log = before.log ++ [exchange outcome] := by
  obtain ⟨rfl, rfl⟩ := Prod.mk.inj hrun
  rfl

namespace Tracked

/-- Recording the calls of an insertion of tables changes nothing else. -/
theorem mirrors_insertTables (client : Client σ) (id : Option String)
    (tables : List TableDescriptor) :
    Mirrors (insertTables client.recorded id tables) (insertTables client id tables) :=
  (agrees_insertTables client.recorded_alike id tables).mirrors

variable {client : Client σ} {id : Option String} {before after : Tracked (Recorded σ)}

theorem log_of_run_query {outcome : Except Failure Snapshot}
    (hrun : (query client.recorded id).run.run before = (outcome, after)) :
    after.state.log = before.state.log ++ [.query id outcome] := by
  obtain ⟨rfl, rfl⟩ := Prod.mk.inj hrun
  rfl

theorem log_of_run_mutate {requests : List Request} {outcome : Except Failure Json}
    (hrun : (mutate client.recorded id requests).run.run before = (outcome, after)) :
    after.state.log = before.state.log ++ [.mutate id requests outcome] := by
  obtain ⟨rfl, rfl⟩ := Prod.mk.inj hrun
  rfl

end Tracked

end DocPress
