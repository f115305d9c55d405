import DocPress.Proofs.MemoryDocument.Order
import DocPress.Proofs.Publication.Protocol

/-!
# Sessions

A document in memory can be written and read any number of times, with any Markdown and
with any batches chosen to fail. It begins with single paragraphs and stays in order at
every point. The operations rely on this when they say where their text goes: the last
line end is always there, and text before it lies in the last paragraph. The batch of a
text is therefore accepted, unless it was chosen to fail or the text has characters of two
code units, of which nothing is said; and when it fails, the document is left as it was.
-/

namespace DocPress

variable {σ τ : Type}

/-! ## Jobs -/

/-- What can be asked for. -/
inductive Job
  /-- Write a document. -/
  | write (operation : Operation) (typography : Bool)
  /-- Read a document. -/
  | read (id : Option String)

/-- Do a job. The answer is a message, or what was read. -/
def Job.run (client : Client σ) : Job → Action σ Text
  | .write operation typography => do return (← operation.run client typography).toList
  | .read id => Publication.readDocument client id

/-- A job together with the batch that fails while it is done. -/
structure Turn where
  /-- The job. -/
  job : Job
  /-- The batch that fails, counted from the first one of the document. -/
  failAt : Option Int

/-- A document for which the batch that fails was chosen. -/
def Turn.prepare (turn : Turn) (document : MemoryDocument) : MemoryDocument :=
  { document with failAt := turn.failAt }

/-- The document after some turns. -/
def MemoryDocument.session (document : MemoryDocument) (turns : List Turn) : MemoryDocument :=
  turns.foldl
    (fun document turn => ((turn.job.run client).run.run (turn.prepare document)).2) document

theorem Publication.agrees_readDocument {related : σ → τ → Prop} {first : Client σ}
    {second : Client τ} (hclients : Client.Alike related first second) (id : Option String) :
    Agrees related (readDocument first id) (readDocument second id) :=
  (agrees_ofExcept _).bind fun name => (hclients.query (some name)).bind fun _ => agrees_pure _

theorem Job.agrees_run {related : σ → τ → Prop} {first : Client σ} {second : Client τ}
    (hclients : Client.Alike related first second) (job : Job) :
    Agrees related (job.run first) (job.run second) := by
  cases job with
  | write operation typography =>
      exact (operation.agrees_run hclients typography).bind fun _ => agrees_pure _
  | read id => exact Publication.agrees_readDocument hclients id

/-! ## Where text goes -/

open MemoryDocument

/-- Whether a position is that of the last line end, which lies in the last paragraph. -/
def IsLastLineEnd (elements : List Element) (position : Int) : Prop :=
  ∃ before line, elements = before ++ [.paragraph (line ++ ['\n'])] ∧
    position = stopOf before + line.length

/-- Whether a document is in order and the positions that are computed for new text lie in
its last paragraph, once the requests that go before the text have been made. -/
structure MemoryDocument.IsReady (document : MemoryDocument) : Prop where
  isOrderly : IsOrderly document.elements
  two_le_stop : ∃ stop, document.snapshot.stop = some stop ∧ 2 ≤ stop
  lastLineEnd : IsLastLineEnd document.elements (Publication.lastLineEnd document.snapshot)
  place : ∀ place : Place, ∃ edited,
    Performs (place.first document.snapshot) document.elements [] edited ∧ IsOrderly edited ∧
      IsLastLineEnd edited (place.start document.snapshot)

/-- In a document in order every way to write finds its place in the last paragraph. -/
theorem MemoryDocument.IsOrderly.isReady {document : MemoryDocument}
    (horderly : IsOrderly document.elements) : document.IsReady := by
  obtain ⟨before, last, helements⟩ := horderly.exists_last
  have hlast := lastLineEnd_snapshot helements
  refine ⟨horderly, ⟨_, stop_snapshot document, ?_⟩, ⟨before, last, helements, hlast⟩, ?_⟩
  · rw [stop_eq helements, stopOf_eq]
    omega
  intro place
  cases place with
  | lastLine => exact ⟨_, performs_nil _, horderly, before, last, helements, hlast⟩
  | content =>
      exact ⟨blank, performs_clearing helements horderly.isParagraph, isOrderly_blank, [], [], rfl,
        rfl⟩
  | behind =>
      have hperforms := performs_lineEnd helements horderly.isParagraph
      rw [← hlast] at hperforms
      refine ⟨_, hperforms, ⟨fun text hmem => ?_, ['\n'], by simp⟩, document.elements, [], rfl, ?_⟩
      · exact (List.mem_append.mp hmem).elim (horderly.isParagraph text) blank_isParagraph
      · rw [Place.start, hlast, helements]
        simp only [stopOf_eq, elementsSize_append, elementsSize_cons, size_paragraph,
          elementsSize_nil, List.length_append, List.length_singleton, List.length_nil]
        omega

/-! ## The batch of the text -/

/-- What the first call of an operation does with a document: one that is created loses its
text. -/
def Operation.opened : Operation → Stage → Stage
  | create .., stage => { stage with elements := blank }
  | write .., stage => stage

/-- The batch of a draft for the last line end is accepted. -/
theorem Draft.exists_performs {draft : Draft} {elements edited : List Element}
    (hfirst : Performs draft.first elements [] edited) (horderly : IsOrderly edited)
    (hstart : IsLastLineEnd edited draft.start)
    (hplane : ∀ c ∈ draft.compilation.text, c.toNat < 0x10000) :
    ∃ records final, Performs draft.requests elements records final := by
  obtain ⟨before, line, rfl, hstart⟩ := hstart
  have hrequests := performs_requests rfl horderly.isParagraph hstart (by simp) hplane
  exact ⟨_, _, hfirst.append hrequests⟩

namespace Operation

variable {operation : Operation} {typography : Bool} {call : Exchange} {draft : Draft}

/-- The first call settles which draft there is. -/
theorem Prepares.unique {other : Draft} (hprepares : operation.Prepares typography call draft)
    (hother : operation.Prepares typography call other) : other = draft := by
  cases hprepares with
  | create => cases hother; rfl
  | write => cases hother; rfl

/-- After the first call the document is the one that the draft is for. -/
theorem Prepares.opens {document : MemoryDocument}
    (hprepares : operation.Prepares typography call draft)
    (hanswered : (call.replay client document).1 = call)
    (horderly : IsOrderly document.elements) :
    let opened := (call.replay client document).2
    opened.stage = operation.opened document.stage ∧ opened.id = draft.id ∧
      (opened.chosen 0 → document.chosen 0) ∧
      ∃ edited, Performs draft.first opened.elements [] edited ∧ IsOrderly edited ∧
        IsLastLineEnd edited draft.start := by
  cases hprepares with
  | create htitle hfilled id =>
      obtain rfl : document.id = id := Except.ok.inj (Exchange.create.inj hanswered).2
      exact ⟨rfl, rfl, fun hchosen => hchosen, blank, performs_nil _, isOrderly_blank, [], [], rfl,
        rfl⟩
  | @write id name hid place source snapshot =>
      rw [Exchange.replay] at hanswered ⊢
      rcases run_query_cases document (some name) with ⟨hname, hrun⟩ | hrun
      · rw [hrun] at hanswered ⊢
        obtain rfl := Except.ok.inj (Exchange.query.inj hanswered).2
        exact ⟨rfl, hname, fun hchosen => hchosen, horderly.isReady.place place⟩
      · rw [hrun] at hanswered
        exact absurd (Exchange.query.inj hanswered).2 (by simp)

/-- What becomes of the batch of the text. If it fails, it is the last call, and elements and
styles are left as they were after the first one. It does not fail unless it was chosen to or
the text has characters of two code units. -/
def SettlesText (operation : Operation) (typography : Bool) (before : MemoryDocument)
    (log : List Exchange) (result : Except Failure Text) (after : MemoryDocument) : Prop :=
  ∀ call draft rest, operation.Prepares typography call draft → log = call :: rest →
    draft.requests ≠ [] →
      ∃ outcome later, rest = .mutate draft.id draft.requests outcome :: later ∧
        (∀ failure, outcome = .error failure →
          later = [] ∧ result = .error failure ∧
            after.stage = operation.opened before.stage) ∧
        ((∀ c ∈ draft.compilation.text, c.toNat < 0x10000) → ¬ before.chosen 0 →
          ∃ reply, outcome = .ok reply)

/-- After the first call the batch of the text is sent, and if it fails nothing else is done. -/
theorem Concludes.exists_batch {opening insertion rest : List Exchange}
    {result : Except Failure String}
    (hconcludes : operation.Concludes typography opening insertion result)
    (hprepares : operation.Prepares typography call draft)
    (hlog : opening ++ insertion = call :: rest) (hsome : draft.requests ≠ []) :
    ∃ outcome later, rest = .mutate draft.id draft.requests outcome :: later ∧
      ∀ failure, outcome = .error failure → later = [] ∧ result = .error failure := by
  cases hconcludes with
  | refused hrefused => exact absurd hlog (by simp)
  -- A first call that failed prepares no draft either.
  | unopened hbegins hfailed =>
      obtain ⟨rfl, -⟩ := List.cons.inj hlog
      rw [hprepares.failure?_eq] at hfailed
      exact absurd hfailed (by simp)
  -- Blank Markdown prepares no draft.
  | blank hoperation hblank hbegins hgood message =>
      subst hoperation
      cases hprepares with
      | create htitle hfilled id => exact absurd hblank hfilled
  | drafted hdrafted happlies =>
      obtain ⟨rfl, rfl⟩ := List.cons.inj hlog
      obtain rfl := hprepares.unique hdrafted
      have hbatch (reply : Json) : Draft.batch _ reply = [.mutate _ _ (.ok reply)] :=
        if_neg (by simpa using hsome)
      generalize hcause : failureOf? result = cause at happlies
      cases happlies with
      | unsent failure =>
          refine ⟨.error failure, [], rfl, fun other hother => ⟨rfl, ?_⟩⟩
          obtain rfl := Except.error.inj hother
          cases result with
          | ok message => exact absurd hcause (by simp [failureOf?])
          | error failure => rw [Option.some.inj hcause]
      | stopped reply hinserts hinterrupts =>
          exact ⟨.ok reply, insertion, by rw [hbatch]; rfl, by simp⟩
      | applied reply hinserts =>
          exact ⟨.ok reply, insertion, by rw [hbatch]; rfl, by simp⟩

/-- A run that ended in one of the four ways settles its text. -/
theorem Concludes.settlesText {before : MemoryDocument} {opening insertion : List Exchange}
    {result : Except Failure String}
    (hconcludes : operation.Concludes typography opening insertion result)
    (hanswers : client.Answers before (opening ++ insertion))
    (horderly : IsOrderly before.elements) :
    operation.SettlesText typography before (opening ++ insertion)
      (result.map String.toList) (client.follow before (opening ++ insertion)) := by
  intro call draft rest hprepares hlog hsome
  obtain ⟨outcome, later, rfl, hfailed⟩ := hconcludes.exists_batch hprepares hlog hsome
  rw [hlog] at hanswers ⊢
  obtain ⟨hcall, hmutate, -⟩ := hanswers
  obtain ⟨hstage, hid, hchosen, edited, hfirst, hedited, hstart⟩ := hprepares.opens hcall horderly
  rw [Client.follow_cons, Client.follow_cons]
  generalize (call.replay client before).2 = opened at *
  rw [Exchange.replay] at hmutate ⊢
  refine ⟨outcome, later, rfl, fun failure houtcome => ?_, fun hplane hspared => ?_⟩
  · obtain ⟨rfl, rfl⟩ := hfailed failure houtcome
    rcases run_mutate_cases opened draft.id draft.requests with
      ⟨issue, after, hrun, hkept⟩ | ⟨after, hrun, -⟩
    · rw [hrun]
      exact ⟨rfl, rfl, hkept.trans hstage⟩
    · rw [hrun, houtcome] at hmutate
      exact absurd (Exchange.mutate.inj hmutate).2.2 (by simp)
  · -- The document takes the batch, so the record cannot say that it failed.
    obtain ⟨records, final, hperforms⟩ := draft.exists_performs hfirst hedited hstart hplane
    have hyields := yields_mutate_of_performs hid (fun hfail => hspared (hchosen hfail)) hperforms
    rw [hyields] at hmutate
    exact ⟨_, (Exchange.mutate.inj hmutate).2.2.symm⟩

end Operation

/-! ## Turns -/

/-- What holds while a turn is taken with a document, with the record, the result and the
document that it leaves. -/
structure Turn.KeepsOrder (turn : Turn) (before : MemoryDocument) (log : List Exchange)
    (result : Except Failure Text) (after : MemoryDocument) : Prop where
  /-- The calls of the record, made one after the other, lead to the document that is left. -/
  answers : client.Answers before log
  follow_eq : client.follow before log = after
  /-- Before the first call, between calls and after the last one the document is in order. -/
  isReady : ∀ earlier later, log = earlier ++ later → (client.follow before earlier).IsReady
  /-- While a batch is applied, the document is in order after each request that is accepted. -/
  isOrderly_within : ∀ earlier id requests outcome later,
    log = earlier ++ .mutate id requests outcome :: later →
      ∀ accepted others edited, requests = accepted ++ others →
        (client.follow before earlier).applyAll accepted = .ok edited → IsOrderly edited.elements
  /-- The batch of the text is accepted, or leaves the document as it was. -/
  settlesText : ∀ operation typography, turn.job = .write operation typography →
    operation.SettlesText typography before log result after

/-- A document in memory fails with faults of the service only. -/
theorem failsTranslated_of_answers {before : MemoryDocument} {log : List Exchange}
    (hanswers : client.Answers before log) : FailsTranslated log := by
  intro exchange hmem failure hfailed
  obtain ⟨earlier, later, rfl⟩ := List.append_of_mem hmem
  obtain ⟨hanswered, -⟩ := (Client.answers_append.mp hanswers).2
  rw [← hanswered] at hfailed
  obtain ⟨issue, rfl⟩ := exists_issue_of_replay hfailed
  rfl

/-- A turn that begins with a document in order keeps it in order. -/
theorem Turn.exists_keepsOrder (turn : Turn) {before : MemoryDocument}
    (horderly : IsOrderly before.elements) :
    ∃ result log after,
      (turn.job.run client.recorded).run.run { state := before } =
        (result, { log, state := after }) ∧
      (turn.job.run client).run.run before = (result, after) ∧
      turn.KeepsOrder before log result after := by
  rcases hrun : (turn.job.run client.recorded).run.run { state := before } with
    ⟨result, log, after⟩
  rcases hbare : (turn.job.run client).run.run before with ⟨bare, last⟩
  have hreaches := turn.job.agrees_run (client.recorded_reaches before) { state := before } before
    ⟨rfl, rfl, trivial⟩
  rw [hrun, hbare] at hreaches
  obtain ⟨rfl, rfl, hfollow, hanswers⟩ := hreaches
  change client.follow before log = after at hfollow
  -- Each call that is replayed keeps the document in order.
  have hpoint : ∀ earlier, IsOrderly (client.follow before earlier).elements :=
    @Client.follow_preserves _ client before (fun document => IsOrderly document.elements)
      (fun _ exchange hdocument => hdocument.replay exchange) horderly
  refine ⟨result, log, after, rfl, rfl, hanswers, hfollow, fun earlier later _ =>
    (hpoint earlier).isReady, ?_, ?_⟩
  · intro earlier id requests outcome later _ accepted others edited _ happly
    exact (hpoint earlier).applyAll happly
  · intro operation typography hjob
    rw [hjob, Job.run] at hrun
    rcases hwrite : (operation.run client.recorded typography).run.run { state := before } with
      ⟨written, recorded⟩
    rw [run_bind_pure hwrite] at hrun
    obtain ⟨rfl, rfl⟩ := Prod.mk.inj hrun
    obtain ⟨opening, insertion, hlog, hconcludes⟩ :=
      Operation.run_concludes hwrite (failsTranslated_of_answers hanswers)
    obtain rfl : log = opening ++ insertion := hlog
    rw [← hfollow]
    exact hconcludes.settlesText hanswers horderly

/-- A document in order is in order after any turns. -/
theorem session_isOrderly {document : MemoryDocument} (horderly : IsOrderly document.elements)
    (turns : List Turn) : IsOrderly (document.session turns).elements := by
  induction turns generalizing document with
  | nil => exact horderly
  | cons turn rest ih =>
      obtain ⟨result, log, after, -, hrun, hkeeps⟩ :=
        @Turn.exists_keepsOrder turn (turn.prepare document) horderly
      have hafter := (hkeeps.isReady log [] (List.append_nil log).symm).isOrderly
      rw [hkeeps.follow_eq] at hafter
      rw [session, List.foldl_cons, hrun]
      exact ih hafter

/-- A document in memory begins with single paragraphs and is written and read any number of
times, with any Markdown and with any batches chosen to fail. In each turn it is in order at
every point, the positions computed for new text lie in its last paragraph, and the batch of
the text is accepted or leaves it as it was. -/
theorem session_keeps_order {document : MemoryDocument} {texts : List Text}
    (hdocument : document.elements = ofParagraphs texts)
    (htexts : ∀ text ∈ texts, IsParagraph text) (turns : List Turn) (turn : Turn) :
    let before := turn.prepare (document.session turns)
    ∃ result log after,
      (turn.job.run client.recorded).run.run { state := before } =
        (result, { log, state := after }) ∧
      (turn.job.run client).run.run before = (result, after) ∧
      document.session (turns ++ [turn]) = after ∧
      turn.KeepsOrder before log result after := by
  have horderly : IsOrderly document.elements := hdocument ▸ isOrderly_ofParagraphs htexts
  obtain ⟨result, log, after, hrecorded, hrun, hkeeps⟩ :=
    @Turn.exists_keepsOrder turn (turn.prepare (document.session turns))
      (session_isOrderly horderly turns)
  refine ⟨result, log, after, hrecorded, hrun, ?_, hkeeps⟩
  rw [session, List.foldl_concat]
  exact congrArg Prod.snd hrun

/-- A document of two lines. -/
def twoLines : MemoryDocument :=
  { id := some "d", title := none, elements := ofParagraphs [['a', '\n'], ['b', '\n']] }

/-- A line and a table are to be appended, and the first batch fails. -/
def failedAppending : Turn :=
  { job := .write (.write .behind (some "d") (some titledTable)) false, failAt := some 1 }

/-- The batch that fails leaves the two lines in order and as they were. -/
theorem session_keeps_order_failedAppending :
    twoLines.elements = ofParagraphs [['a', '\n'], ['b', '\n']] ∧
      (∀ text ∈ [['a', '\n'], ['b', '\n']], IsParagraph text) ∧
      ∃ log after,
        (failedAppending.job.run client.recorded).run.run
            { state := failedAppending.prepare twoLines } =
          (.error EditIssue.simulated.failure, { log, state := after }) ∧
        failedAppending.KeepsOrder (failedAppending.prepare twoLines) log
          (.error EditIssue.simulated.failure) after ∧
        after.stage = twoLines.stage := by
  have htexts : ∀ text ∈ [['a', '\n'], ['b', '\n']], IsParagraph text := by
    intro text hmem
    simp only [List.mem_cons, List.not_mem_nil, or_false] at hmem
    rcases hmem with rfl | rfl
    · exact ⟨['a'], rfl, by decide⟩
    · exact ⟨['b'], rfl, by decide⟩
  refine ⟨rfl, htexts, ?_⟩
  obtain ⟨result, log, after, hrecorded, hrun, -, hkeeps⟩ :=
    @session_keeps_order twoLines _ rfl htexts [] failedAppending
  have hid : validateDocumentId (some "d") = .ok "d" := by decide +kernel
  have hsource : validateSource (some titledTable) = .ok titledTable := rfl
  have hname : (failedAppending.prepare twoLines).id = some "d" := rfl
  have hfails : (failedAppending.job.run client).run.run (failedAppending.prepare twoLines) =
      (.error EditIssue.simulated.failure,
        { failedAppending.prepare twoLines with mutations := 1 }) := by
    refine run_bind_of_failed ?_ _
    rw [Operation.run, Publication.appendMarkdown, (yields_ofExcept hid).run_bind,
      (yields_ofExcept hsource).run_bind, (yields_query hname).run_bind]
    exact run_bind_of_failed (run_bind_of_failed (run_mutate_of_chosen hname rfl) _) _
  obtain ⟨rfl, rfl⟩ := Prod.mk.inj (hrun.symm.trans hfails)
  exact ⟨log, _, hrecorded, hkeeps, rfl⟩

end DocPress
