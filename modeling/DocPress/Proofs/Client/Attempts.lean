import Mathlib.Data.List.Chain
import DocPress.Client.Service
import DocPress.Proofs.Client.Records

/-!
# Attempts of calls

The client of a service makes each call in one attempt, or in up to three when the call
only reads. The attempts can be written down like the calls, and then every call is
answered by attempts of its own, which stand in the order of the calls. It is supposed
that the service waits as it is told to, and that its failures have causes outside the
publishing code. Nothing is said of how long it waits.
-/

namespace DocPress

variable {σ α : Type}

/-! ## Recording attempts -/

/-- An attempt of a call with its outcome. -/
structure Attempt where
  call : Call
  outcome : Except Failure Json

/-- The state of a service together with the attempts made so far, the first one first. -/
structure Attempted (σ : Type) where
  attempts : List Attempt := []
  state : σ

/-- The service that writes down the attempts made. -/
def Service.recorded (service : Service σ) : Service (Attempted σ) where
  call call := ExceptT.mk fun attempted =>
    let (outcome, state) := (service.call call).run.run attempted.state
    (outcome, { attempts := attempted.attempts ++ [{ call, outcome }], state })
  wait seconds := ExceptT.mk fun attempted =>
    let (outcome, state) := (service.wait seconds).run.run attempted.state
    (outcome, { attempted with state })

/-- Whether a fault comes from outside, so that it is in none of the categories that the
publishing code has for its own. -/
def Fault.isExternal : Fault → Bool
  | .errorReply _ | .channel _ | .badValue _ | .runtime _ | .missingAttribute _ | .outOfRange =>
      true
  | .validation _ | .publishing _ | .service .. | .tables .. | .stale .. | .transient _ => false

/-- Whether a fault is in one of the categories for failed calls. -/
def Fault.isTranslated : Fault → Bool
  | .service .. | .transient _ => true
  | _ => false

/-- Whether an attempt that fails does so with a fault from outside. -/
def Attempt.IsExternal (attempt : Attempt) : Prop :=
  ∀ failure, attempt.outcome = .error failure → failure.fault.isExternal

/-- Whether a service comes back from every wait, and fails with faults from outside. -/
structure Service.IsExternal (service : Service σ) : Prop where
  waits : ∀ seconds state, ∃ after, Yields (service.wait seconds) state () after
  fails_outside : ∀ {call state failure after},
    (service.call call).run.run state = (.error failure, after) → failure.fault.isExternal

/-- What a service may do at an attempt: answer the call, refuse it, or lose the channel. -/
inductive Reaction
  | reply (value : Json)
  | refusal (body : ErrorReply)
  | loss (message : String)

/-- The outcome of an attempt. -/
def Reaction.outcome : Reaction → Except Failure Json
  | .reply value => .ok value
  | .refusal body => .error (Fault.errorReply body).alone
  | .loss message => .error (Fault.channel message).alone

/-- The service that reacts as was laid down, and then loses the channel for good. -/
def Service.rehearsed : Service (List Reaction) where
  call _ := ExceptT.mk fun reactions =>
    ((reactions.headD (.loss "closed")).outcome, reactions.tail)
  wait _ := pure ()

/-- A refusal and a loss of the channel both come from outside. -/
theorem Service.rehearsed_isExternal : rehearsed.IsExternal where
  waits _ reactions := ⟨reactions, rfl⟩
  fails_outside {_ reactions failure after} hcall := by
    have houtcome : (reactions.headD (.loss "closed")).outcome = .error failure :=
      congrArg Prod.fst hcall
    cases hreaction : reactions.headD (.loss "closed") with
    | reply value => exact absurd (hreaction ▸ houtcome) (by simp [Reaction.outcome])
    | refusal body =>
        rw [hreaction] at houtcome
        obtain rfl := Except.error.inj houtcome
        rfl
    | loss message =>
        rw [hreaction] at houtcome
        obtain rfl := Except.error.inj houtcome
        rfl

/-! ## What answers a call -/

/-- Whether attempts answer a guarded call that has failed some times before. The call is
repeated only where its guard says so, and not after the last attempt. -/
inductive Answers (call : Call) : Nat → List Attempt → Except Failure Json → Prop
  | replied (failed : Nat) (reply : Json) :
      Answers call failed [{ call, outcome := .ok reply }] (.ok reply)
  | gaveUp {failed : Nat} {failure : Failure}
      (hlast : call.guard.mayRepeat failure → failed + 1 = Guard.maxAttempts) :
      Answers call failed [{ call, outcome := .error failure }]
        (.error (call.guard.translate (failed + 1) failure))
  | repeated {failed : Nat} {failure : Failure} {attempts : List Attempt}
      {outcome : Except Failure Json} (hrepeat : call.guard.mayRepeat failure)
      (hmore : failed + 1 < Guard.maxAttempts)
      (hrest : Answers call (failed + 1) attempts outcome) :
      Answers call failed ({ call, outcome := .error failure } :: attempts) outcome

/-- The call that an exchange makes. -/
def Exchange.call : Exchange → Call
  | .query id _ => .get id
  | .mutate id requests _ => .batchUpdate id requests
  | .create title _ => .create title

/-- The identifier in the reply of a call that creates a document. -/
def Json.documentId? (reply : Json) : Option String :=
  (reply.member? "documentId").bind Json.text? |>.map String.ofList

/-- Whether an exchange has for its outcome what the client reads in an answer. -/
def Exchange.Reads : Exchange → Except Failure Json → Prop
  | .query _ outcome, answer => outcome = answer.map Snapshot.ofJson
  | .mutate _ _ outcome, answer => outcome = answer
  | .create _ outcome, answer => outcome = answer.map Json.documentId?

/-- Whether attempts, few enough, answer the call of an exchange. -/
def Exchange.AnsweredBy (exchange : Exchange) (attempts : List Attempt) : Prop :=
  attempts.length ≤ Guard.maxAttempts ∧
    ∃ answer, Answers exchange.call 0 attempts answer ∧ exchange.Reads answer

/-- Whether a record of attempts belongs to a record of calls: it is made of attempts that
answer the first call, attempts that answer the second one, and so on. -/
inductive Serves : List Attempt → List Exchange → Prop
  | nil : Serves [] []
  | cons {group attempts : List Attempt} {exchange : Exchange} {log : List Exchange}
      (hfirst : exchange.AnsweredBy group) (hrest : Serves attempts log) :
      Serves (group ++ attempts) (exchange :: log)

/-- Records of attempts are put together like the records of calls that they belong to. -/
theorem Serves.append {attempts others : List Attempt} {log more : List Exchange}
    (hserves : Serves attempts log) (hmore : Serves others more) :
    Serves (attempts ++ others) (log ++ more) := by
  induction hserves with
  | nil => exact hmore
  | cons hfirst _ ih =>
      rw [List.append_assoc]
      exact .cons hfirst ih

/-- Whether another attempt may come right after one: if that one fails, it was to read a
document, the secure channel failed, and the other reads the same document again. -/
def Attempt.Precedes (attempt next : Attempt) : Prop :=
  ∀ failure, attempt.outcome = .error failure →
    (∃ id, attempt.call = .get id ∧ next.call = .get id) ∧
      ∃ message, failure.fault = .channel message

/-- Whether every call of a record that failed did so in one of the categories for failed
calls. -/
def FailsTranslated (log : List Exchange) : Prop :=
  ∀ exchange ∈ log, ∀ failure, exchange.failure? = some failure → failure.fault.isTranslated

/-- Whether a call changes something. -/
def Call.writes (call : Call) : Bool :=
  !call.guard.readOnly

/-- A call is made again only to read a document, and only after the channel was lost. -/
theorem Call.mayRepeat_iff {call : Call} {failure : Failure} :
    call.guard.mayRepeat failure ↔
      (∃ id, call = .get id) ∧ ∃ message, failure.fault = .channel message := by
  obtain ⟨fault, cause⟩ := failure
  cases call with
  | get id => cases fault <;> simp [Call.guard, Guard.mayRepeat]
  | batchUpdate id requests => simp [Call.guard, Guard.mayRepeat]
  | create title => simp [Call.guard, Guard.mayRepeat]

/-- Every fault from outside is put into one of the categories for failed calls. -/
theorem Guard.isTranslated_translate (guard : Guard) (attempts : Nat) {failure : Failure}
    (hexternal : failure.fault.isExternal) :
    (guard.translate attempts failure).fault.isTranslated := by
  obtain ⟨fault, cause⟩ := failure
  cases fault <;> first | rfl | exact absurd hexternal (by simp [Fault.isExternal])

namespace Answers

variable {call : Call} {failed : Nat} {attempts : List Attempt} {answer : Except Failure Json}

/-- The attempts that answer a call are never more than are allowed. -/
theorem length_le (hanswers : Answers call failed attempts answer)
    (hfailed : failed < Guard.maxAttempts) : failed + attempts.length ≤ Guard.maxAttempts := by
  -- The bound is kept by `repeated`, which asks for attempts that are left.
  induction hanswers with
  | replied => exact hfailed
  | gaveUp => exact hfailed
  | repeated _ hmore _ ih =>
      have hrest := ih hmore
      rw [List.length_cons]
      omega

theorem call_eq (hanswers : Answers call failed attempts answer) {attempt : Attempt}
    (hmem : attempt ∈ attempts) : attempt.call = call := by
  induction hanswers with
  | replied => rw [List.mem_singleton.mp hmem]
  | gaveUp => rw [List.mem_singleton.mp hmem]
  | repeated _ _ _ ih =>
      rcases List.mem_cons.mp hmem with rfl | hrest
      · rfl
      · exact ih hrest

theorem exists_cons (hanswers : Answers call failed attempts answer) :
    ∃ first rest, attempts = first :: rest := by
  cases hanswers with
  | replied => exact ⟨_, _, rfl⟩
  | gaveUp => exact ⟨_, _, rfl⟩
  | repeated => exact ⟨_, _, rfl⟩

/-- A call that does not only read is attempted once. -/
theorem map_call_of_writes (hanswers : Answers call failed attempts answer)
    (hwrites : call.guard.readOnly = false) : attempts.map Attempt.call = [call] := by
  cases hanswers with
  | replied => rfl
  | gaveUp => rfl
  | repeated hrepeat => exact absurd hrepeat (by simp [Guard.mayRepeat, hwrites])

/-- A call that is given up fails with the translation of what its last attempt failed
with. -/
theorem exists_cause {failure : Failure}
    (hanswers : Answers call failed attempts (.error failure)) :
    ∃ cause, attempts.getLast? = some { call, outcome := .error cause } ∧
      failure = call.guard.translate (failed + attempts.length) cause := by
  generalize hanswer : Except.error failure = answer at hanswers
  induction hanswers with
  | replied => exact absurd hanswer (by simp)
  | @gaveUp failed cause =>
      obtain rfl := Except.error.inj hanswer
      exact ⟨cause, rfl, rfl⟩
  | @repeated failed _ attempts _ _ _ hrest ih =>
      obtain ⟨cause, hlast, htranslate⟩ := ih hanswer
      obtain ⟨first, rest, rfl⟩ := hrest.exists_cons
      refine ⟨cause, by rw [List.getLast?_cons_cons, hlast], ?_⟩
      rw [htranslate, Nat.add_assoc, Nat.add_comm 1]
      rfl

/-- Where the last attempt fails, the call is given up. -/
theorem error_of_getLast? (hanswers : Answers call failed attempts answer) {attempt : Attempt}
    {failure : Failure} (hlast : attempts.getLast? = some attempt)
    (hfailed : attempt.outcome = .error failure) : ∃ cause, answer = .error cause := by
  induction hanswers with
  | replied =>
      obtain rfl := Option.some.inj hlast
      exact absurd hfailed (by simp)
  | gaveUp => exact ⟨_, rfl⟩
  | repeated _ _ hrest ih =>
      obtain ⟨first, rest, rfl⟩ := hrest.exists_cons
      rw [List.getLast?_cons_cons] at hlast
      exact ih hlast

/-- Each of the attempts that answer a call repeats the one before it. -/
theorem isChain (hanswers : Answers call failed attempts answer) :
    attempts.IsChain Attempt.Precedes := by
  induction hanswers with
  | replied => exact List.isChain_singleton _
  | gaveUp => exact List.isChain_singleton _
  | repeated hrepeat _ hrest ih =>
      obtain ⟨first, rest, rfl⟩ := hrest.exists_cons
      refine List.isChain_cons_cons.mpr ⟨fun failure hfailed => ?_, ih⟩
      obtain rfl := Except.error.inj hfailed
      obtain ⟨⟨id, rfl⟩, hchannel⟩ := Call.mayRepeat_iff.mp hrepeat
      exact ⟨⟨id, rfl, hrest.call_eq List.mem_cons_self⟩, hchannel⟩

end Answers

/-- An exchange has failed exactly if the answer that the client read has. -/
theorem Exchange.Reads.failure?_eq {exchange : Exchange} {answer : Except Failure Json}
    (hreads : exchange.Reads answer) : exchange.failure? = failureOf? answer := by
  cases exchange with
  | query id outcome =>
      obtain rfl := hreads
      cases answer <;> rfl
  | mutate id requests outcome =>
      obtain rfl := hreads
      rfl
  | create title outcome =>
      obtain rfl := hreads
      cases answer <;> rfl

namespace Serves

variable {attempts : List Attempt} {log : List Exchange}

/-- What a call fails with is the translation of what one of its attempts failed with. -/
theorem exists_cause (hserves : Serves attempts log) {exchange : Exchange}
    (hmem : exchange ∈ log) {failure : Failure} (hfailed : exchange.failure? = some failure) :
    ∃ cause count, { call := exchange.call, outcome := .error cause } ∈ attempts ∧
      failure = exchange.call.guard.translate count cause := by
  induction hserves with
  | nil => exact absurd hmem List.not_mem_nil
  | cons hfirst _ ih =>
      rcases List.mem_cons.mp hmem with rfl | hrest
      · obtain ⟨_, answer, hanswers, hreads⟩ := hfirst
        rw [hreads.failure?_eq] at hfailed
        cases answer with
        | ok reply => exact absurd hfailed (by simp [failureOf?])
        | error given =>
            obtain rfl := Option.some.inj hfailed
            obtain ⟨cause, hlast, htranslate⟩ := hanswers.exists_cause
            exact ⟨cause, _, List.mem_append_left _ (List.mem_of_getLast? hlast), htranslate⟩
      · obtain ⟨cause, count, hattempt, htranslate⟩ := ih hrest
        exact ⟨cause, count, List.mem_append_right _ hattempt, htranslate⟩

/-- If the attempts fail for causes outside, the calls fail in the categories for failed calls. -/
theorem failsTranslated (hserves : Serves attempts log)
    (hexternal : ∀ attempt ∈ attempts, attempt.IsExternal) : FailsTranslated log := by
  intro exchange hmem failure hfailed
  obtain ⟨cause, count, hattempt, rfl⟩ := hserves.exists_cause hmem hfailed
  exact Guard.isTranslated_translate _ _ (hexternal _ hattempt cause rfl)

/-- A call that changes something is attempted once, and in its turn. -/
theorem writes_once (hserves : Serves attempts log) :
    (attempts.map Attempt.call).filter Call.writes =
      (log.map Exchange.call).filter Call.writes := by
  induction hserves with
  | nil => rfl
  | @cons group attempts exchange log hfirst _ ih =>
      obtain ⟨_, answer, hanswers, _⟩ := hfirst
      rw [List.map_append, List.filter_append, ih, List.map_cons]
      by_cases hwrites : exchange.call.writes
      · rw [hanswers.map_call_of_writes (by simpa [Call.writes] using hwrites),
          List.filter_cons_of_pos hwrites, List.filter_cons_of_pos hwrites]
        rfl
      · have hnone : (group.map Attempt.call).filter Call.writes = [] := by
          refine List.filter_eq_nil_iff.mpr fun call hmem => ?_
          obtain ⟨attempt, hattempt, rfl⟩ := List.mem_map.mp hmem
          rw [hanswers.call_eq hattempt]
          exact hwrites
        rw [hnone, List.filter_cons_of_neg hwrites, List.nil_append]

/-- If no call is made after one that failed, then no attempt is made after one that
failed, unless it repeats this one. -/
theorem isChain (hserves : Serves attempts log)
    (hstops : log.Pairwise fun earlier _ => earlier.failure? = none) :
    attempts.IsChain Attempt.Precedes := by
  induction hserves with
  | nil => exact List.isChain_nil
  | @cons group attempts exchange log hfirst hrest ih =>
      rw [List.pairwise_cons] at hstops
      obtain ⟨_, answer, hanswers, hreads⟩ := hfirst
      refine List.isChain_append.mpr ⟨hanswers.isChain, ih hstops.2, ?_⟩
      intro attempt hlast next hnext failure hfailed
      -- The call has failed, so that there are no other calls and no attempts for them.
      obtain ⟨cause, rfl⟩ := hanswers.error_of_getLast? hlast hfailed
      cases hrest with
      | nil => exact absurd hnext (by simp)
      | cons =>
          have hgood := hstops.1 _ List.mem_cons_self
          rw [hreads.failure?_eq] at hgood
          exact absurd hgood (by simp [failureOf?])

end Serves

/-! ## Runs of guarded calls -/

namespace Guard

variable {guard : Guard} {wait : Nat → Action σ Unit} {call : Action σ α} {failed left : Nat}
  {state after : σ}

/-- A call that is not made again ends the run with its outcome, where a failure is
translated. -/
theorem run_tryFrom_of_last {outcome : Except Failure α}
    (hcall : call.run.run state = (outcome, after))
    (hlast : ∀ failure, outcome = .error failure → guard.mayRepeat failure → left = 0) :
    (guard.tryFrom wait call failed left).run.run state =
      (outcome.mapError (guard.translate (failed + 1)), after) := by
  cases left with
  | zero =>
      rw [tryFrom, run_tryCatch, hcall]
      cases outcome <;> rfl
  | succ left =>
      rw [tryFrom, run_tryCatch, hcall]
      cases outcome with
      | ok value => rfl
      | error failure =>
          have hstop : ¬guard.mayRepeat failure :=
            fun hrepeat => absurd (hlast failure rfl hrepeat) (Nat.succ_ne_zero left)
          simp only [if_neg hstop]
          rfl

/-- A call that is made again is followed by a wait, and by what the run does then. -/
theorem run_tryFrom_of_repeat {failure : Failure} {waited : σ}
    (hcall : call.run.run state = (.error failure, after)) (hrepeat : guard.mayRepeat failure)
    (hwait : Yields (wait (delay (failed + 1))) after () waited) :
    (guard.tryFrom wait call failed (left + 1)).run.run state =
      (guard.tryFrom wait call (failed + 1) left).run.run waited := by
  rw [tryFrom, run_tryCatch, hcall]
  simp only [if_pos hrepeat]
  exact hwait.run_bind _

/-- What holds where the next call is the last one, and is handed back over a call that is made
again and the wait after it, holds of every run of a guarded call. -/
theorem tryFrom_induction {motive : Nat → Nat → σ → Except Failure α × σ → Prop}
    (hwaits : ∀ seconds state, ∃ after, Yields (wait seconds) state () after)
    (hlast : ∀ {failed left state outcome after}, failed + left + 1 = maxAttempts →
      call.run.run state = (outcome, after) →
      (∀ failure, outcome = .error failure → guard.mayRepeat failure → left = 0) →
      motive failed left state (outcome.mapError (guard.translate (failed + 1)), after))
    (hrepeat : ∀ {failed left state failure after waited result},
      failed + 1 + left + 1 = maxAttempts →
      call.run.run state = (.error failure, after) → guard.mayRepeat failure →
      Yields (wait (delay (failed + 1))) after () waited → motive (failed + 1) left waited result →
      motive failed (left + 1) state result)
    (hleft : failed + left + 1 = maxAttempts) (state : σ) :
    motive failed left state ((guard.tryFrom wait call failed left).run.run state) := by
  -- The calls left are counted down while the failed ones are counted up.
  rcases hcall : call.run.run state with ⟨outcome, after⟩
  induction left generalizing failed state outcome after with
  | zero =>
      rw [run_tryFrom_of_last hcall fun _ _ _ => rfl]
      exact hlast hleft hcall fun _ _ _ => rfl
  | succ left ih =>
      by_cases hagain : ∃ failure, outcome = .error failure ∧ guard.mayRepeat failure
      · obtain ⟨failure, rfl, hmay⟩ := hagain
        obtain ⟨waited, hwait⟩ := hwaits (delay (failed + 1)) after
        have hmore : failed + 1 + left + 1 = maxAttempts := by omega
        rw [run_tryFrom_of_repeat hcall hmay hwait]
        exact hrepeat hmore hcall hmay hwait (ih hmore waited _ _ rfl)
      · have hstops : ∀ failure, outcome = .error failure → guard.mayRepeat failure →
            left + 1 = 0 :=
          fun failure hfailed hmay => absurd ⟨failure, hfailed, hmay⟩ hagain
        rw [run_tryFrom_of_last hcall hstops]
        exact hlast hleft hcall hstops

end Guard

namespace Service

variable {service : Service σ} {call : Call} {failed left : Nat} {before after : Attempted σ}

/-- An attempt that is written down is one of the service. -/
theorem exists_run_call_of_recorded {outcome : Except Failure Json}
    (hcall : (service.recorded.call call).run.run before = (outcome, after)) :
    ∃ state, (service.call call).run.run before.state = (outcome, state) ∧
      after = { attempts := before.attempts ++ [{ call, outcome }], state } := by
  rcases hbare : (service.call call).run.run before.state with ⟨answer, state⟩
  have hrecorded : (service.recorded.call call).run.run before =
      (answer, ⟨before.attempts ++ [⟨call, answer⟩], state⟩) := by
    change (((service.call call).run.run before.state).1, (⟨before.attempts ++
      [⟨call, ((service.call call).run.run before.state).1⟩],
        ((service.call call).run.run before.state).2⟩ : Attempted σ)) = _
    rw [hbare]
  obtain ⟨rfl, rfl⟩ := Prod.mk.inj (hcall.symm.trans hrecorded)
  exact ⟨state, rfl, rfl⟩

/-- Waiting adds nothing to the record. -/
theorem yields_recorded_wait {seconds : Nat} {attempts : List Attempt} {state waited : σ}
    (hwait : Yields (service.wait seconds) state () waited) :
    Yields (service.recorded.wait seconds) { attempts, state } ()
      { attempts, state := waited } := by
  unfold Yields at *
  change (((service.wait seconds).run.run state).1,
    (⟨attempts, ((service.wait seconds).run.run state).2⟩ : Attempted σ)) = _
  rw [hwait]

/-- Whether a call that has failed some times, and may be made some times more after the next,
has its result from the attempts that are added. The run without a record is the same. -/
def IsAnswered (service : Service σ) (call : Call) (failed left : Nat) (before : Attempted σ)
    (result : Except Failure Json × Attempted σ) : Prop :=
  ∃ answer added state, result = (answer, { attempts := before.attempts ++ added, state }) ∧
    (call.guard.tryFrom service.wait (service.call call) failed left).run.run before.state =
      (answer, state) ∧
    Answers call failed added answer ∧ ∀ attempt ∈ added, attempt.IsExternal

/-- A call that is not made again has its answer from one attempt. -/
theorem isAnswered_of_last {outcome : Except Failure Json} (hservice : service.IsExternal)
    (hleft : failed + left + 1 = Guard.maxAttempts)
    (hcall : (service.recorded.call call).run.run before = (outcome, after))
    (hlast : ∀ failure, outcome = .error failure → call.guard.mayRepeat failure → left = 0) :
    service.IsAnswered call failed left before
      (outcome.mapError (call.guard.translate (failed + 1)), after) := by
  obtain ⟨state, hbare, rfl⟩ := exists_run_call_of_recorded hcall
  refine ⟨_, [⟨call, outcome⟩], state, rfl, Guard.run_tryFrom_of_last hbare hlast, ?_, ?_⟩
  · cases outcome with
    | ok reply => exact .replied failed reply
    | error failure =>
        refine .gaveUp fun hrepeat => ?_
        rw [← hleft, hlast failure rfl hrepeat, Nat.add_zero]
  · rw [List.forall_mem_singleton]
    rintro failure rfl
    exact hservice.fails_outside hbare

/-- A call that is made again has its answer from the attempts that follow this one. -/
theorem isAnswered_of_repeat {failure : Failure} {waited : Attempted σ}
    {result : Except Failure Json × Attempted σ} (hservice : service.IsExternal)
    (hleft : failed + 1 + left + 1 = Guard.maxAttempts)
    (hcall : (service.recorded.call call).run.run before = (.error failure, after))
    (hrepeat : call.guard.mayRepeat failure)
    (hwait : Yields (service.recorded.wait (Guard.delay (failed + 1))) after () waited)
    (hrest : service.IsAnswered call (failed + 1) left waited result) :
    service.IsAnswered call failed (left + 1) before result := by
  obtain ⟨state, hbare, rfl⟩ := exists_run_call_of_recorded hcall
  obtain ⟨later, hlater⟩ := hservice.waits (Guard.delay (failed + 1)) state
  obtain ⟨_, rfl⟩ := Prod.mk.inj (hwait.symm.trans (yields_recorded_wait hlater))
  obtain ⟨answer, added, final, rfl, hrun, hanswers, hexternal⟩ := hrest
  refine ⟨answer, ⟨call, .error failure⟩ :: added, final, ?_, ?_, .repeated hrepeat (by omega)
    hanswers, List.forall_mem_cons.mpr ⟨?_, hexternal⟩⟩
  · rw [List.append_assoc, List.singleton_append]
  · rw [Guard.run_tryFrom_of_repeat hbare hrepeat hlater]
    exact hrun
  · rintro _ ⟨⟩
    exact hservice.fails_outside hbare

/-- Every guarded call is answered by the attempts that its run adds. -/
theorem isAnswered_ask (hservice : service.IsExternal) (call : Call) (before : Attempted σ) :
    service.IsAnswered call 0 (Guard.maxAttempts - 1) before
      ((service.recorded.ask call).run.run before) := by
  refine Guard.tryFrom_induction (motive := service.IsAnswered call) ?_
    (isAnswered_of_last hservice) (isAnswered_of_repeat hservice) rfl before
  rintro seconds ⟨attempts, state⟩
  obtain ⟨waited, hwait⟩ := hservice.waits seconds state
  exact ⟨_, yields_recorded_wait hwait⟩

end Service

/-! ## The client of a service -/

/-- Whether a state with both records belongs to a state without them: the attempts are
those for the calls, and their failures have causes outside. -/
structure Faithful (recorded : Recorded (Attempted σ)) (state : σ) : Prop where
  state_eq : recorded.state.state = state
  serves : Serves recorded.state.attempts recorded.log
  external : ∀ attempt ∈ recorded.state.attempts, attempt.IsExternal

namespace Service

variable {service : Service σ}

/-- A call that is recorded with what the client reads in its answer. -/
theorem faithful_ask (hservice : service.IsExternal) {call : Call} {read : Json → α}
    {exchange : Except Failure α → Exchange} (hcall : ∀ outcome, (exchange outcome).call = call)
    (hreads : ∀ answer : Except Failure Json, (exchange (answer.map read)).Reads answer) :
    Agrees Faithful
      (Action.recorded exchange (service.recorded.ask call >>= fun reply => pure (read reply)))
      (service.ask call >>= fun reply => pure (read reply)) := by
  rintro ⟨log, attempted⟩ state ⟨rfl, hserves, hexternal⟩
  obtain ⟨answer, added, after, hask, hbare, hanswers, hadded⟩ :=
    isAnswered_ask hservice call attempted
  have hrecorded : (Action.recorded exchange
      (service.recorded.ask call >>= fun reply => pure (read reply))).run.run ⟨log, attempted⟩ =
        (answer.map read, ⟨log ++ [exchange (answer.map read)],
          { attempts := attempted.attempts ++ added, state := after }⟩) :=
    run_recorded (run_bind_pure hask read) exchange log
  have hplain : (service.ask call >>= fun reply => pure (read reply)).run.run attempted.state =
      (answer.map read, after) := run_bind_pure hbare read
  have hfirst : (exchange (answer.map read)).AnsweredBy added := by
    refine ⟨?_, answer, ?_, hreads answer⟩
    · simpa using hanswers.length_le (by decide)
    · rw [hcall]
      exact hanswers
  have hafter := hserves.append (.cons hfirst .nil)
  rw [List.append_nil] at hafter
  simp only [hrecorded, hplain]
  exact ⟨trivial, rfl, hafter, List.forall_mem_append.mpr ⟨hexternal, hadded⟩⟩

/-- Whatever the service answers, the records of calls and of attempts belong together, and
without them a run is the same. -/
theorem client_faithful (hservice : service.IsExternal) :
    Client.Alike Faithful service.recorded.client.recorded service.client where
  query id := faithful_ask hservice (fun _ => rfl) fun _ => rfl
  mutate id requests := by
    have hreads : ∀ answer : Except Failure Json,
        (Exchange.mutate id requests (answer.map fun reply => reply)).Reads answer := by
      intro answer
      cases answer <;> rfl
    have hask := @faithful_ask _ _ service hservice (.batchUpdate id requests) (fun reply => reply)
      (.mutate id requests) (fun _ => rfl) hreads
    rw [bind_pure, bind_pure] at hask
    exact hask
  create title := faithful_ask hservice (fun _ => rfl) fun _ => rfl

end Service

end DocPress
