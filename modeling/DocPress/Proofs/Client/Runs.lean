import DocPress.Tables.Insertion

/-!
# Runs of actions

A run that succeeds goes from one state to another and gives a value. Runs are put
together the way actions are: one after the other, with a recovery that is not needed,
or under a count of the batches.
-/

namespace DocPress

variable {σ α β : Type}

/-- Whether an action, run on a state, gives a value and leaves another state. -/
def Yields (action : Action σ α) (state : σ) (value : α) (after : σ) : Prop :=
  action.run.run state = (.ok value, after)

/-- Recovery goes on from the state in which the action failed. -/
theorem run_tryCatch (action : Action σ α) (recover : Failure → Action σ α) (state : σ) :
    (tryCatch action recover).run.run state =
      match action.run.run state with
      | (.ok value, after) => (.ok value, after)
      | (.error failure, after) => (recover failure).run.run after := by
  change (ExceptT.tryCatch action recover).run.run state = _
  simp only [ExceptT.tryCatch, ExceptT.run_mk, StateT.run_bind]
  rcases hresult : action.run.run state with ⟨result, between⟩
  rw [ExceptT.run] at hresult
  rw [hresult]
  cases result with
  | error failure => rfl
  | ok value => rfl

theorem run_bind_of_failed {first : Action σ α} {state after : σ} {failure : Failure}
    (hfirst : first.run.run state = (.error failure, after)) (rest : α → Action σ β) :
    (first >>= rest).run.run state = (.error failure, after) := by
  simp only [ExceptT.run_bind, StateT.run_bind, hfirst]
  rfl

theorem run_bind_pure {action : Action σ α} {state after : σ} {result : Except Failure α}
    (haction : action.run.run state = (result, after)) (read : α → β) :
    (action >>= fun value => pure (read value)).run.run state = (result.map read, after) := by
  simp only [ExceptT.run_bind, StateT.run_bind, haction]
  cases result <;> rfl

/-- A run of two actions ends with the failure of the first, or the second goes on with
the value of the first. -/
theorem run_bind_cases {first : Action σ α} {rest : α → Action σ β} {state after : σ}
    {result : Except Failure β} (hrun : (first >>= rest).run.run state = (result, after)) :
    (∃ failure, result = .error failure ∧ first.run.run state = (.error failure, after)) ∨
      ∃ value between, Yields first state value between ∧
        (rest value).run.run between = (result, after) := by
  rcases hfirst : first.run.run state with ⟨outcome, between⟩
  simp only [ExceptT.run_bind, StateT.run_bind, hfirst] at hrun
  cases outcome with
  | error failure =>
      obtain ⟨rfl, rfl⟩ := Prod.mk.inj hrun
      exact Or.inl ⟨failure, rfl, rfl⟩
  | ok value => exact Or.inr ⟨value, between, hfirst, hrun⟩

/-- A check ends a run without a change, or the run goes on with its value. -/
theorem run_check_cases {checked : Except Failure α} {rest : α → Action σ β}
    {state after : σ} {result : Except Failure β}
    (hrun : (Action.ofExcept checked >>= rest).run.run state = (result, after)) :
    (∃ failure, checked = .error failure ∧ result = .error failure ∧ after = state) ∨
      ∃ value, checked = .ok value ∧ (rest value).run.run state = (result, after) := by
  cases checked with
  | ok value => exact Or.inr ⟨value, rfl, hrun⟩
  | error failure =>
      obtain ⟨rfl, rfl⟩ := Prod.mk.inj hrun
      exact Or.inl ⟨failure, rfl, rfl, rfl⟩

section Yields

variable {state between after : σ}

theorem yields_pure (value : α) : Yields (pure value : Action σ α) state value state := rfl

theorem yields_ofExcept {result : Except Failure α} {value : α} (hresult : result = .ok value) :
    Yields (Action.ofExcept result) state value state := by
  rw [hresult]
  rfl

theorem yields_get : Yields (get : Action σ σ) state state state := rfl

theorem yields_modify (change : σ → σ) :
    Yields (modify change : Action σ PUnit) state .unit (change state) := rfl

theorem Yields.run_bind {first : Action σ α} {value : α}
    (hfirst : Yields first state value between) (rest : α → Action σ β) :
    (first >>= rest).run.run state = (rest value).run.run between := by
  unfold Yields at hfirst
  simp only [ExceptT.run_bind, StateT.run_bind, hfirst]
  rfl

theorem Yields.bind {first : Action σ α} {rest : α → Action σ β} {value : α} {result : β}
    (hfirst : Yields first state value between) (hrest : Yields (rest value) between result after) :
    Yields (first >>= rest) state result after := by
  unfold Yields
  rw [hfirst.run_bind]
  exact hrest

/-- A sequence succeeds only if its first step does, and the rest after that. -/
theorem Yields.exists_of_bind {first : Action σ α} {rest : α → Action σ β} {result : β}
    (hrun : Yields (first >>= rest) state result after) :
    ∃ value between,
      Yields first state value between ∧ Yields (rest value) between result after := by
  rcases run_bind_cases hrun with ⟨_, hfailed, _⟩ | hsteps
  · exact absurd hfailed (by simp)
  · exact hsteps

theorem Yields.tryCatch {action : Action σ α} {value : α}
    (haction : Yields action state value after) (recover : Failure → Action σ α) :
    Yields (MonadExcept.tryCatch action recover) state value after := by
  unfold Yields at *
  rw [run_tryCatch, haction]

end Yields

namespace Tracked

variable {client : Client σ} {id : Option String} {state after : σ} {generation : Int}

theorem yields_lift {action : Action σ α} {value : α} (haction : Yields action state value after) :
    Yields (lift action) ⟨generation, state⟩ value ⟨generation, after⟩ := by
  unfold Yields at *
  rw [lift, ExceptT.run_mk]
  change ((action.run.run state).1, (⟨generation, (action.run.run state).2⟩ : Tracked σ)) = _
  rw [haction]

/-- Every batch begins another generation, even one that fails. -/
theorem run_mutate (client : Client σ) (id : Option String) (requests : List Request)
    (tracked : Tracked σ) :
    (mutate client id requests).run.run tracked =
      (((client.mutate id requests).run.run tracked.state).1,
        ⟨tracked.generation + 1, ((client.mutate id requests).run.run tracked.state).2⟩) := rfl

/-- A batch begins a new generation. -/
theorem yields_mutate {requests : List Request} {reply : Json}
    (hmutate : Yields (client.mutate id requests) state reply after) :
    Yields (mutate client id requests) ⟨generation, state⟩ reply ⟨generation + 1, after⟩ :=
  (yields_modify _).bind (yields_lift hmutate)

/-- A table is located at the first layout that does not begin before the anchor. -/
theorem yields_locate {snapshot : Snapshot} {anchor : Int} {layout : TableLayout}
    (hquery : Yields (client.query id) state snapshot state)
    (hlayout : (snapshot.tables generation).find? (fun layout => layout.start.any (anchor ≤ ·)) =
      some layout) :
    Yields (locate client id anchor) ⟨generation, state⟩ layout ⟨generation, state⟩ := by
  refine (yields_lift hquery).bind (yields_get.bind ?_)
  simp only [hlayout]
  exact yields_pure layout

/-! ### Layouts of the generation at hand -/

variable {tracked : Tracked σ} {layout : TableLayout} {table : TableDescriptor}

theorem yields_requireFresh (hfresh : layout.generation = tracked.generation) :
    Yields (requireFresh layout) tracked () tracked := by
  refine yields_get.bind ?_
  rw [if_neg (by simpa using hfresh)]
  exact yields_pure ()

theorem yields_cellBatch {batch : CellBatch} (hfresh : layout.generation = tracked.generation)
    (hbatch : layout.cellBatch table = .ok batch) :
    Yields (cellBatch layout table) tracked batch tracked :=
  (yields_requireFresh hfresh).bind (yields_ofExcept hbatch)

theorem yields_boldRequests (hfresh : layout.generation = tracked.generation) :
    Yields (boldRequests layout table) tracked (layout.boldRequests table) tracked :=
  (yields_requireFresh hfresh).bind (yields_pure _)

end Tracked

end DocPress
