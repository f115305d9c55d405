import DocPress.Proofs.Client.Attempts

/-!
# What a guarded call ends with

A guarded call is made again only if it just reads, the secure channel failed, and it was
made less than three times. So it ends after one, two or three calls, with the value of the
last one or with a report of its failure, and callers know every report by its category.
Nothing is supposed of what the calls do, in whatever order they do it.
-/

namespace DocPress

variable {α : Type}

/-! ## Calls with given outcomes -/

/-- How often a call was made, and how long it was waited each time in between. -/
structure Rehearsal where
  calls : Nat := 0
  waits : List Nat := []

namespace Rehearsal

/-- The call that has the outcomes of a sequence, one after the other. -/
def call (outcomes : Nat → Except Failure α) : Action Rehearsal α :=
  ExceptT.mk fun rehearsal =>
    (outcomes rehearsal.calls, { rehearsal with calls := rehearsal.calls + 1 })

/-- The wait that is only written down. -/
def wait (seconds : Nat) : Action Rehearsal Unit :=
  modify fun rehearsal => { rehearsal with waits := rehearsal.waits ++ [seconds] }

end Rehearsal

/-! ## Reports -/

/-- Whether a category is the one of a status. -/
inductive Category.Fits : Category → Option Int → Prop
  | unauthorized : Fits .permissionDenied (some 401)
  | forbidden : Fits .permissionDenied (some 403)
  | notFound : Fits .notFound (some 404)
  | rateLimited : Fits .rateLimited (some 429)
  | general {status : Option Int}
      (hother : status ∉ [some 401, some 403, some 404, some 429]) : Fits .general status

/-- Whether callers of guarded calls know a fault by its category. -/
def Fault.isReported : Fault → Bool
  | .validation _ | .service .. | .tables .. | .transient _ => true
  | _ => false

/-- Whether a failure is reported as another one when it ends a guarded call that was made
some times. -/
inductive Guard.Reports (guard : Guard) (calls : Nat) : Failure → Failure → Prop
  | channel {failure : Failure} {message : String} (hfault : failure.fault = .channel message)
      (hnamed : ∃ before after, (TransientIssue.channelFailed guard.operation calls).message =
        before ++ toString calls ++ after) :
      Reports guard calls failure
        { fault := .transient (.channelFailed guard.operation calls), cause := failure.fault }
  | refusal {failure : Failure} {reply : ErrorReply} {category : Category}
      (hfault : failure.fault = .errorReply reply) (hcategory : category.Fits reply.status) :
      Reports guard calls failure
        { fault := .service category reply.status (.refused guard.operation reply)
          cause := failure.fault }
  | known {failure : Failure} (hfault : failure.fault.isReported) :
      Reports guard calls failure failure
  | unexpected {failure : Failure} (hchannel : ∀ message, failure.fault ≠ .channel message)
      (hreply : ∀ reply, failure.fault ≠ .errorReply reply)
      (hknown : failure.fault.isReported = false) :
      Reports guard calls failure
        { fault := .service .general none (.unexpected guard.operation failure.fault.message)
          cause := failure.fault }

/-- Whether a guarded call that was made some times answers the outcome of the last call: with
its value, or with a report of its failure. -/
inductive Guard.Concludes (guard : Guard) (calls : Nat) :
    Except Failure α → Except Failure α → Prop
  | value (value : α) : Concludes guard calls (.ok value) (.ok value)
  | report {failure report : Failure} (hreports : guard.Reports calls failure report) :
      Concludes guard calls (.error failure) (.error report)

/-- Every status is put into the category that fits it. -/
theorem Category.fits_ofStatus (status : Option Int) : (ofStatus status).Fits status := by
  unfold ofStatus
  split
  next h404 =>
    rw [h404]
    exact .notFound
  next h404 =>
    split
    next hdenied =>
      rw [Bool.or_eq_true, decide_eq_true_iff, decide_eq_true_iff] at hdenied
      rcases hdenied with rfl | rfl
      · exact .unauthorized
      · exact .forbidden
    next hdenied =>
      rw [Bool.or_eq_true, decide_eq_true_iff, decide_eq_true_iff, not_or] at hdenied
      split
      next h429 =>
        rw [h429]
        exact .rateLimited
      next h429 => exact .general (by simp [h404, hdenied, h429])

namespace Guard

variable {guard : Guard} {calls : Nat} {failure report : Failure}

/-- Every failure has a report, whatever its fault is. -/
theorem reports_translate (guard : Guard) (calls : Nat) (failure : Failure) :
    guard.Reports calls failure (guard.translate calls failure) := by
  obtain ⟨fault, cause⟩ := failure
  cases fault with
  | validation | service | tables | transient => exact .known rfl
  | channel message => exact .channel rfl ⟨_, _, String.append_assoc ..⟩
  | errorReply reply => exact .refusal rfl (Category.fits_ofStatus reply.status)
  | _ => exact .unexpected (by simp) (by simp) rfl

theorem Reports.isReported (hreports : guard.Reports calls failure report) :
    report.fault.isReported := by
  cases hreports with
  | known hfault => exact hfault
  | _ => rfl

theorem Concludes.isReported {outcome : Except Failure α}
    (hconcludes : guard.Concludes calls outcome (.error report)) : report.fault.isReported := by
  cases hconcludes with
  | report hreports => exact hreports.isReported

/-! ## The calls of a run -/

/-- Whether the secure channel failed in an outcome. -/
def LosesChannel (outcome : Except Failure α) : Prop :=
  ∃ failure message, outcome = .error failure ∧ failure.fault = .channel message

/-- A failure calls for another attempt exactly if the call just reads and the channel was lost.
-/
theorem mayRepeat_iff :
    guard.mayRepeat failure ↔
      guard.readOnly ∧ LosesChannel (.error failure : Except Failure α) := by
  obtain ⟨fault, cause⟩ := failure
  rw [mayRepeat, Bool.and_eq_true]
  refine and_congr_right fun _ => ?_
  cases fault <;> simp [LosesChannel]

/-- Whether the call number `last`, the first one having the number zero, is the last one of
those from the number `first` on: it is the first of them after which the call is not made
again. -/
structure EndsAt (guard : Guard) (outcomes : Nat → Except Failure α) (first last : Nat) :
    Prop where
  first_le : first ≤ last
  lt_maxAttempts : last < maxAttempts
  repeats : ∀ earlier, first ≤ earlier → earlier < last →
    guard.readOnly ∧ LosesChannel (outcomes earlier)
  stops : ¬ (guard.readOnly ∧ LosesChannel (outcomes last) ∧ last + 1 < maxAttempts)

theorem EndsAt.of_stops {outcomes : Nat → Except Failure α} {first : Nat}
    (hfirst : first < maxAttempts)
    (hstops : ¬ (guard.readOnly ∧ LosesChannel (outcomes first) ∧ first + 1 < maxAttempts)) :
    guard.EndsAt outcomes first first where
  first_le := Nat.le_refl first
  lt_maxAttempts := hfirst
  repeats _ hle hlt := absurd hlt (Nat.not_lt_of_le hle)
  stops := hstops

/-- The last call stays the last one when a call before it that was repeated is counted in. -/
theorem EndsAt.of_next {outcomes : Nat → Except Failure α} {first last : Nat}
    (hends : guard.EndsAt outcomes (first + 1) last)
    (hfirst : guard.readOnly ∧ LosesChannel (outcomes first)) :
    guard.EndsAt outcomes first last where
  first_le := Nat.le_of_succ_le hends.first_le
  lt_maxAttempts := hends.lt_maxAttempts
  repeats earlier hle hlt := by
    rcases Nat.eq_or_lt_of_le hle with rfl | hlater
    · exact hfirst
    · exact hends.repeats earlier hlater hlt
  stops := hends.stops

/-- The outcome of the last call is answered with its failure translated. -/
theorem concludes_mapError (guard : Guard) (calls : Nat) (outcome : Except Failure α) :
    guard.Concludes calls outcome (outcome.mapError (guard.translate calls)) := by
  cases outcome with
  | ok value => exact .value value
  | error failure => exact .report (guard.reports_translate calls failure)

/-- Whether a run that has failed some times before ends with the last one of its calls: it
answers the outcome of that call, and it has waited after each of the others, each time twice
as long. -/
def EndsWith (guard : Guard) (outcomes : Nat → Except Failure α) (failed : Nat)
    (before : Rehearsal) (result : Except Failure α × Rehearsal) : Prop :=
  before.calls = failed → ∃ last answer,
    result =
      (answer, { calls := last + 1
                 waits := before.waits ++ (List.range' failed (last - failed)).map (Nat.pow 2) }) ∧
    guard.EndsAt outcomes failed last ∧ guard.Concludes (last + 1) (outcomes last) answer

section Run

variable {outcomes : Nat → Except Failure α} {failed left : Nat} {before after : Rehearsal}

theorem endsWith_of_last {outcome : Except Failure α} (hleft : failed + left + 1 = maxAttempts)
    (hcall : (Rehearsal.call outcomes).run.run before = (outcome, after))
    (hlast : ∀ failure, outcome = .error failure → guard.mayRepeat failure → left = 0) :
    guard.EndsWith outcomes failed before
      (outcome.mapError (guard.translate (failed + 1)), after) := by
  rintro rfl
  obtain ⟨rfl, rfl⟩ := Prod.mk.inj hcall
  refine ⟨before.calls, _, by simp, .of_stops (by omega) ?_, guard.concludes_mapError ..⟩
  rintro ⟨hreads, ⟨failure, message, houtcome, hfault⟩, hmore⟩
  have hloses : LosesChannel (.error failure : Except Failure α) := ⟨failure, message, rfl, hfault⟩
  have hnone := hlast failure houtcome (mayRepeat_iff.mpr ⟨hreads, hloses⟩)
  omega

/-- A call that is made again is not the last one, and the wait after it is noted. -/
theorem endsWith_of_repeat {failure : Failure} {waited : Rehearsal}
    {result : Except Failure α × Rehearsal}
    (hcall : (Rehearsal.call outcomes).run.run before = (.error failure, after))
    (hrepeat : guard.mayRepeat failure)
    (hwait : Yields (Rehearsal.wait (delay (failed + 1))) after () waited)
    (hrest : guard.EndsWith outcomes (failed + 1) waited result) :
    guard.EndsWith outcomes failed before result := by
  rintro rfl
  obtain ⟨houtcome, rfl⟩ := Prod.mk.inj hcall
  obtain ⟨_, rfl⟩ := Prod.mk.inj hwait
  obtain ⟨last, answer, rfl, hends, hconcludes⟩ := hrest rfl
  have hagain : guard.readOnly ∧ LosesChannel (outcomes before.calls) :=
    houtcome ▸ mayRepeat_iff.mp hrepeat
  have hlast : last - before.calls = last - (before.calls + 1) + 1 := by
    have := hends.first_le
    omega
  refine ⟨last, answer, ?_, hends.of_next hagain, hconcludes⟩
  rw [hlast, List.range'_succ, List.map_cons, List.append_assoc]
  rfl

theorem endsWith_run (guard : Guard) (outcomes : Nat → Except Failure α) :
    guard.EndsWith outcomes 0 {}
      ((guard.run Rehearsal.wait (Rehearsal.call outcomes)).run.run {}) :=
  tryFrom_induction (motive := fun failed _ => guard.EndsWith outcomes failed)
    (fun _ _ => ⟨_, rfl⟩) endsWith_of_last (fun _ => endsWith_of_repeat) rfl {}

end Run

/-- For every sequence of outcomes: the call is made again only after a loss of the secure
channel, only if it just reads and only up to three times, and the waits in between double. It
answers the outcome of the last call, with its value or with a report of its failure, and every
failure that it ends with is one that callers know by its category. -/
theorem run_answers_outcomes (guard : Guard) (outcomes : Nat → Except Failure α) :
    ∃ last answer, (guard.run Rehearsal.wait (Rehearsal.call outcomes)).run.run {} =
        (answer, { calls := last + 1, waits := (List.range last).map (Nat.pow 2) }) ∧
      last < 3 ∧
      (∀ earlier < last, guard.readOnly ∧ LosesChannel (outcomes earlier)) ∧
      ¬ (guard.readOnly ∧ LosesChannel (outcomes last) ∧ last + 1 < 3) ∧
      guard.Concludes (last + 1) (outcomes last) answer ∧
      ∀ failure, answer = .error failure → failure.fault.isReported := by
  obtain ⟨last, answer, hrun, hends, hconcludes⟩ := guard.endsWith_run outcomes rfl
  refine ⟨last, answer, ?_, hends.lt_maxAttempts,
    fun earlier hlt => hends.repeats earlier (Nat.zero_le _) hlt, hends.stops, hconcludes, ?_⟩
  · rw [List.range_eq_range']
    exact hrun
  · rintro failure rfl
    exact hconcludes.isReported

end Guard

end DocPress
