import DocPress.Proofs.Client.Runs

/-!
# Actions that agree

Two actions on states of different kinds agree if, from states that belong together, they
give the same result and leave states that belong together again. Actions that are put
together in the same way from actions that agree do agree. The insertion of tables does
nothing with a client but call it, so that it agrees for clients that agree, whichever
states belong together.
-/

namespace DocPress

variable {σ τ α β : Type} {related : σ → τ → Prop}

/-- Whether two actions give the same result, and leave states that belong together, when
they are run on states that do. -/
def Agrees (related : σ → τ → Prop) (first : Action σ α) (second : Action τ α) : Prop :=
  ∀ state other, related state other →
    (first.run.run state).1 = (second.run.run other).1 ∧
      related (first.run.run state).2 (second.run.run other).2

theorem agrees_pure (value : α) : Agrees related (pure value) (pure value) :=
  fun _ _ hrelated => ⟨rfl, hrelated⟩

theorem agrees_fail (failure : Failure) :
    Agrees related (Action.fail failure : Action σ α) (Action.fail failure) :=
  fun _ _ hrelated => ⟨rfl, hrelated⟩

theorem agrees_ofExcept (result : Except Failure α) :
    Agrees related (Action.ofExcept result) (Action.ofExcept result) := by
  cases result with
  | ok value => exact agrees_pure value
  | error failure => exact agrees_fail failure

/-- States may be looked at where the rest agrees for all states that belong together. -/
theorem agrees_get_bind {first : σ → Action σ α} {second : τ → Action τ α}
    (hrest : ∀ state other, related state other → Agrees related (first state) (second other)) :
    Agrees related (get >>= first) (get >>= second) :=
  fun state other hrelated => hrest state other hrelated state other hrelated

section Agrees

variable {first : Action σ α} {second : Action τ α}

/-- Sequences agree step by step: both fail at the same step, or hand on the same value. -/
theorem Agrees.bind {firstRest : α → Action σ β} {secondRest : α → Action τ β}
    (hboth : Agrees related first second)
    (hrest : ∀ value, Agrees related (firstRest value) (secondRest value)) :
    Agrees related (first >>= firstRest) (second >>= secondRest) := by
  intro state other hrelated
  obtain ⟨hresult, hafter⟩ := hboth state other hrelated
  simp only [ExceptT.run_bind, StateT.run_bind]
  rcases hfirst : first.run.run state with ⟨outcome, between⟩
  rcases hsecond : second.run.run other with ⟨_, beside⟩
  rw [hfirst, hsecond] at hresult hafter
  obtain rfl := hresult
  cases outcome with
  | error failure => exact ⟨rfl, hafter⟩
  | ok value => exact hrest value between beside hafter

/-- A failure is caught on both sides or on neither. -/
theorem Agrees.tryCatch {firstRecover : Failure → Action σ α} {secondRecover : Failure → Action τ α}
    (hboth : Agrees related first second)
    (hrecover : ∀ failure, Agrees related (firstRecover failure) (secondRecover failure)) :
    Agrees related (MonadExcept.tryCatch first firstRecover)
      (MonadExcept.tryCatch second secondRecover) := by
  intro state other hrelated
  obtain ⟨hresult, hafter⟩ := hboth state other hrelated
  rw [run_tryCatch, run_tryCatch]
  rcases hfirst : first.run.run state with ⟨outcome, between⟩
  rcases hsecond : second.run.run other with ⟨_, beside⟩
  rw [hfirst, hsecond] at hresult hafter
  obtain rfl := hresult
  cases outcome with
  | error failure => exact hrecover failure between beside hafter
  | ok value => exact ⟨rfl, hafter⟩

end Agrees

/-- Whether the calls of two clients agree. -/
structure Client.Alike (related : σ → τ → Prop) (first : Client σ) (second : Client τ) : Prop where
  query : ∀ id, Agrees related (first.query id) (second.query id)
  mutate : ∀ id requests, Agrees related (first.mutate id requests) (second.mutate id requests)
  create : ∀ title, Agrees related (first.create title) (second.create title)

namespace Tracked

/-- Whether tracked states have the same generation and the states of the clients belong
together. -/
def Alike (related : σ → τ → Prop) (first : Tracked σ) (second : Tracked τ) : Prop :=
  first.generation = second.generation ∧ related first.state second.state

theorem agrees_lift {first : Action σ α} {second : Action τ α}
    (hboth : Agrees related first second) : Agrees (Alike related) (lift first) (lift second) := by
  intro tracked other halike
  obtain ⟨hresult, hafter⟩ := hboth tracked.state other.state halike.2
  exact ⟨hresult, halike.1, hafter⟩

/-- Which layouts are fresh depends on the generation alone, and both sides count it alike. -/
theorem agrees_requireFresh (layout : TableLayout) :
    Agrees (Alike related) (requireFresh layout) (requireFresh layout) := by
  refine agrees_get_bind fun tracked other halike => ?_
  simp only [halike.1]
  split
  next => exact agrees_fail _
  next => exact agrees_pure ()

theorem agrees_cellBatch (layout : TableLayout) (table : TableDescriptor) :
    Agrees (Alike related) (cellBatch layout table) (cellBatch layout table) :=
  (agrees_requireFresh layout).bind fun _ => agrees_ofExcept _

theorem agrees_boldRequests (layout : TableLayout) (table : TableDescriptor) :
    Agrees (Alike related) (boldRequests layout table) (boldRequests layout table) :=
  (agrees_requireFresh layout).bind fun _ => agrees_pure _

section Clients

variable {first : Client σ} {second : Client τ} (hclients : Client.Alike related first second)
include hclients

theorem agrees_mutate (id : Option String) (requests : List Request) :
    Agrees (Alike related) (mutate first id requests) (mutate second id requests) := by
  intro tracked other halike
  rw [run_mutate, run_mutate]
  obtain ⟨hresult, hafter⟩ := hclients.mutate id requests tracked.state other.state halike.2
  exact ⟨hresult, congrArg (· + 1) halike.1, hafter⟩

theorem agrees_locate (id : Option String) (anchor : Int) :
    Agrees (Alike related) (locate first id anchor) (locate second id anchor) := by
  refine (agrees_lift (hclients.query id)).bind fun snapshot => ?_
  refine agrees_get_bind fun tracked other halike => ?_
  rw [halike.1]
  split
  next => exact agrees_pure _
  next => exact agrees_fail _

theorem agrees_boldHeader (id : Option String) (table : AnchoredTable) :
    Agrees (Alike related) (boldHeader first id table) (boldHeader second id table) := by
  unfold boldHeader
  split
  next => exact agrees_pure 0
  next =>
    refine (agrees_locate hclients id table.anchor).bind fun layout => ?_
    refine (agrees_boldRequests layout table.table).bind fun requests => ?_
    split
    next => exact agrees_pure 0
    next => exact (agrees_mutate hclients id requests).bind fun _ => agrees_pure _

theorem agrees_insertTable (id : Option String) (table : AnchoredTable) :
    Agrees (Alike related) (insertTable first id table) (insertTable second id table) := by
  refine (agrees_mutate hclients id _).bind fun _ => ?_
  refine (agrees_locate hclients id table.anchor).bind fun layout => ?_
  refine (agrees_cellBatch layout table.table).bind fun batch => ?_
  split
  next => exact agrees_pure _
  next =>
    refine (agrees_mutate hclients id batch.requests).bind fun _ => ?_
    exact (agrees_boldHeader hclients id table).bind fun _ => agrees_pure _

theorem agrees_insertFrom (id : Option String) (completed : Nat) (tables : List AnchoredTable) :
    Agrees (Alike related) (insertFrom first id completed tables)
      (insertFrom second id completed tables) := by
  induction tables generalizing completed with
  | nil => exact agrees_pure _
  | cons table rest ih =>
      have hfirst := (agrees_insertTable hclients id table).tryCatch fun failure =>
        agrees_fail (table.failure completed (rest.length + 1) failure)
      exact hfirst.bind fun _ => (ih (completed + 1)).bind fun _ => agrees_pure _

/-- Tables are inserted with the same result through clients that agree, and the states that are
left belong together. -/
theorem agrees_insertTables (id : Option String) (tables : List TableDescriptor) :
    Agrees (Alike related) (insertTables first id tables) (insertTables second id tables) :=
  (agrees_ofExcept _).bind fun placed =>
    agrees_insertFrom hclients id 0 (AnchoredTable.lastFirst placed)

end Clients

end Tracked

end DocPress
