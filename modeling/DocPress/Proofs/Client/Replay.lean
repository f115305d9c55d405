import DocPress.Proofs.Client.Records

/-!
# Records made again

The calls of a record can be made again, one after the other, and lead a client from state
to state. A record that was kept during a run is answered again as it was answered then,
and leads to the state that the run left. So what every call preserves holds at every point
of a run.
-/

namespace DocPress

variable {σ α : Type}

/-- Make the call of an exchange again: the exchange with the outcome that it has now, and
the state that it leaves. -/
def Exchange.replay (client : Client σ) (state : σ) : Exchange → Exchange × σ
  | .query id _ =>
      let (outcome, after) := (client.query id).run.run state
      (.query id outcome, after)
  | .mutate id requests _ =>
      let (outcome, after) := (client.mutate id requests).run.run state
      (.mutate id requests outcome, after)
  | .create title _ =>
      let (outcome, after) := (client.create title).run.run state
      (.create title outcome, after)

namespace Client

variable (client : Client σ)

/-- The state that the calls of a record lead to. -/
def follow (state : σ) (log : List Exchange) : σ :=
  log.foldl (fun state exchange => (exchange.replay client state).2) state

/-- Whether the calls of a record, made again, have the outcomes that the record says. -/
def Answers (state : σ) : List Exchange → Prop
  | [] => True
  | exchange :: rest =>
      (exchange.replay client state).1 = exchange ∧
        Answers (exchange.replay client state).2 rest

variable {client} {start state : σ}

@[simp]
theorem follow_nil : client.follow state [] = state := rfl

@[simp]
theorem follow_cons (exchange : Exchange) (rest : List Exchange) :
    client.follow state (exchange :: rest) =
      client.follow (exchange.replay client state).2 rest := rfl

theorem follow_append (first second : List Exchange) :
    client.follow state (first ++ second) =
      client.follow (client.follow state first) second :=
  List.foldl_append

/-- Answers to two records are answers to the first one and, from the state it leads to, to the
second. -/
theorem answers_append {first second : List Exchange} :
    client.Answers state (first ++ second) ↔
      client.Answers state first ∧ client.Answers (client.follow state first) second := by
  induction first generalizing state with
  | nil => simp [Answers]
  | cons exchange rest ih => simp [Answers, ih, and_assoc]

/-- What every call preserves holds wherever a record leads. -/
theorem follow_preserves {holds : σ → Prop}
    (hcall : ∀ state exchange, holds state → holds (Exchange.replay client state exchange).2)
    (hstate : holds state) (log : List Exchange) : holds (client.follow state log) := by
  induction log generalizing state with
  | nil => exact hstate
  | cons exchange rest ih => exact ih (hcall state exchange hstate)

/-! ## Records of runs -/

/-- Whether a record tells how a state was reached. -/
structure Reaches (client : Client σ) (start : σ) (recorded : Recorded σ) (state : σ) : Prop where
  state_eq : recorded.state = state
  follow_eq : client.follow start recorded.log = state
  answers : client.Answers start recorded.log

/-- A call that is written down with its outcome. -/
theorem Reaches.concat {recorded : Recorded σ} {exchange : Exchange} {after : σ}
    (hreaches : client.Reaches start recorded state)
    (hreplay : exchange.replay client state = (exchange, after)) :
    client.Reaches start { log := recorded.log ++ [exchange], state := after } after where
  state_eq := rfl
  follow_eq := by
    rw [follow_append, hreaches.follow_eq, follow_cons, hreplay, follow_nil]
  answers := by
    rw [answers_append, hreaches.follow_eq]
    refine ⟨hreaches.answers, ?_, trivial⟩
    rw [hreplay]

/-- A client that writes down its calls keeps a record of how its state was reached. -/
theorem recorded_reaches (client : Client σ) (start : σ) :
    Client.Alike (client.Reaches start) client.recorded client where
  query id := by
    intro recorded state hreaches
    obtain rfl := hreaches.state_eq
    exact ⟨rfl, hreaches.concat rfl⟩
  mutate id requests := by
    intro recorded state hreaches
    obtain rfl := hreaches.state_eq
    exact ⟨rfl, hreaches.concat rfl⟩
  create title := by
    intro recorded state hreaches
    obtain rfl := hreaches.state_eq
    exact ⟨rfl, hreaches.concat rfl⟩

end Client

end DocPress
