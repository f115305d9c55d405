import DocPress.Proofs.Lists
import DocPress.Proofs.MemoryDocument.Batches

/-!
# Stages of a run

An action that edits a document sends one batch after the other, and each batch brings the
document to another stage. When one batch is chosen to fail, the run ends there with the
stage before it, and only then; what was done before stays done.
-/

namespace DocPress

/-- What a document holds at some point of a run. -/
structure Stage where
  /-- The elements. -/
  elements : List MemoryDocument.Element
  /-- The styles given so far. -/
  styles : List MemoryDocument.StyleRecord

namespace MemoryDocument

/-- What a document holds now. -/
def stage (document : MemoryDocument) : Stage :=
  { elements := document.elements, styles := document.styles }

/-- A document at a stage, when some more batches have been asked for. -/
def reach (document : MemoryDocument) (batches : Nat) (stage : Stage) : MemoryDocument :=
  { document with
    elements := stage.elements
    styles := stage.styles
    mutations := document.mutations + batches }

/-- Whether the batch with a number, counted from the next one on, was chosen to fail. -/
def chosen (document : MemoryDocument) (index : Nat) : Prop :=
  document.failAt = some ↑(document.mutations + index + 1)

/-- Some batches later, fewer are left to go until the chosen one. -/
theorem chosen_reach (document : MemoryDocument) (batches index : Nat) (stage : Stage) :
    (document.reach batches stage).chosen index ↔ document.chosen (batches + index) := by
  simp only [chosen, reach, Nat.add_assoc]

/-- At most one batch is chosen to fail. -/
theorem chosen_unique {document : MemoryDocument} {first second : Nat}
    (hfirst : document.chosen first) (hsecond : document.chosen second) : first = second := by
  unfold chosen at hfirst hsecond
  rw [hfirst] at hsecond
  have := Option.some.inj hsecond
  omega

theorem not_chosen {document : MemoryDocument} (hspared : document.failAt = none) (index : Nat) :
    ¬ document.chosen index := by
  simp [chosen, hspared]

end MemoryDocument

/-- What a document and the count of its generations are, some batches later. -/
def Tracked.reach (tracked : Tracked MemoryDocument) (batches : Nat) (stage : Stage) :
    Tracked MemoryDocument :=
  { generation := tracked.generation + batches, state := tracked.state.reach batches stage }

theorem Tracked.reach_zero (tracked : Tracked MemoryDocument) :
    tracked.reach 0 tracked.state.stage = tracked := by
  simp [Tracked.reach, MemoryDocument.reach, MemoryDocument.stage]

/-- Only the last stage counts, and all the batches. -/
theorem Tracked.reach_reach (tracked : Tracked MemoryDocument) (first second : Nat)
    (stage later : Stage) :
    (tracked.reach first stage).reach second later = tracked.reach (first + second) later := by
  simp [Tracked.reach, MemoryDocument.reach, Int.add_assoc, Nat.add_assoc]

open MemoryDocument

variable {α β : Type} {id : Option String} {tracked : Tracked MemoryDocument}
  {edited : List Element} {records : List StyleRecord} {stages later : List Stage}

/-- Whether an action sends one batch for each of some stages, and each batch leads to its
stage. A batch that was chosen to fail ends the run with the stage before it; if there is
none among them, the run succeeds. -/
structure Advances (action : Action (Tracked MemoryDocument) α) (tracked : Tracked MemoryDocument)
    (stages : List Stage) : Prop where
  breaks : ∀ index < stages.length, tracked.state.chosen index →
    action.run.run tracked = (.error EditIssue.simulated.failure,
      tracked.reach (index + 1) ((stages.take index).getLastD tracked.state.stage))
  completes : (∀ index < stages.length, ¬ tracked.state.chosen index) →
    ∃ value, Yields action tracked value
      (tracked.reach stages.length (stages.getLastD tracked.state.stage))

theorem advances_pure (value : α) : Advances (pure value) tracked [] where
  breaks := fun _ hindex _ => absurd hindex (Nat.not_lt_zero _)
  completes := by
    intro _
    rw [List.getLastD_nil, List.length_nil, tracked.reach_zero]
    exact ⟨value, yields_pure value⟩

/-- A step that only reads. -/
theorem Yields.advances_bind {first : Action (Tracked MemoryDocument) α}
    {rest : α → Action (Tracked MemoryDocument) β} {value : α}
    (hfirst : Yields first tracked value tracked)
    (hrest : Advances (rest value) tracked stages) : Advances (first >>= rest) tracked stages where
  breaks := by
    rw [hfirst.run_bind]
    exact hrest.breaks
  completes := by
    unfold Yields
    rw [hfirst.run_bind]
    exact hrest.completes

/-- A batch that can be performed leads to one stage. -/
theorem advances_mutate {requests : List Request} (hid : tracked.state.id = id)
    (hperforms : Performs requests tracked.state.elements records edited) :
    Advances (Tracked.mutate client id requests) tracked
      [⟨edited, tracked.state.styles ++ records⟩] where
  breaks := by
    intro index hindex hchosen
    obtain rfl : index = 0 := Nat.lt_one_iff.mp hindex
    rw [Tracked.run_mutate, run_mutate_of_chosen hid hchosen]
    rfl
  completes := by
    intro hspared
    have hyields := yields_mutate_of_performs hid (hspared 0 Nat.zero_lt_one) hperforms
    exact ⟨_, Tracked.yields_mutate hyields⟩

/-- One action after the other goes through the stages of the first and then of the second. -/
theorem Advances.bind {first : Action (Tracked MemoryDocument) α}
    {rest : α → Action (Tracked MemoryDocument) β} (hfirst : Advances first tracked stages)
    (hrest : ∀ value, Advances (rest value)
      (tracked.reach stages.length (stages.getLastD tracked.state.stage)) later) :
    Advances (first >>= rest) tracked (stages ++ later) where
  breaks := by
    intro index hindex hchosen
    -- The chosen batch is one of the first action or, all those being spared, of the second.
    by_cases hfirstIndex : index < stages.length
    · rw [List.take_append_of_le_length (Nat.le_of_lt hfirstIndex)]
      exact run_bind_of_failed (hfirst.breaks index hfirstIndex hchosen) rest
    · have hspared : ∀ other < stages.length, ¬ tracked.state.chosen other :=
        fun other hother hchosen' => hfirstIndex (chosen_unique hchosen hchosen' ▸ hother)
      obtain ⟨value, hyields⟩ := hfirst.completes hspared
      obtain ⟨place, rfl⟩ := Nat.exists_eq_add_of_le (Nat.le_of_not_lt hfirstIndex)
      rw [List.length_append] at hindex
      have hplace := (chosen_reach _ _ _ (stages.getLastD tracked.state.stage)).mpr hchosen
      have hrun := (hrest value).breaks place (by omega) hplace
      rw [Tracked.reach_reach] at hrun
      rw [hyields.run_bind, List.take_length_add_append, getLastD_append]
      exact hrun
  completes := by
    intro hspared
    rw [List.length_append] at *
    obtain ⟨value, hyields⟩ := hfirst.completes fun index hindex => hspared index (by omega)
    obtain ⟨result, hrest⟩ := (hrest value).completes fun index hindex =>
      (not_congr (chosen_reach _ _ _ _)).mpr (hspared (stages.length + index) (by omega))
    rw [Tracked.reach_reach] at hrest
    rw [getLastD_append]
    exact ⟨result, hyields.bind hrest⟩

theorem Advances.bind_pure {action : Action (Tracked MemoryDocument) α}
    (haction : Advances action tracked stages) (result : α → β) :
    Advances (action >>= fun value => pure (result value)) tracked stages := by
  have hbind := haction.bind fun value => advances_pure (result value)
  rwa [List.append_nil] at hbind

end DocPress
