import DocPress.Proofs.Client.Attempts
import DocPress.Proofs.Publication.Agreement
import DocPress.Proofs.Tables.Protocol

/-!
# The calls of an operation

An operation that writes a document checks its arguments, creates or reads the document,
sends the batch of the text, and inserts the tables. Whatever the service answers, each
batch is sent once, nothing is done after a failure, and the failure that ends the
operation is that of its last call. Only while tables are inserted is it put into other
words, which say how far the insertion came.
-/

namespace DocPress

variable {σ τ : Type}

/-! ## Operations -/

/-- Where Markdown goes in a document that is there already. -/
inductive Place
  /-- Before the last line end. -/
  | lastLine
  /-- In the place of all that the document holds. -/
  | content
  /-- After the last paragraph. -/
  | behind

/-- The position of the text, when a document is read. -/
def Place.start (place : Place) (snapshot : Snapshot) : Int :=
  match place with
  | .lastLine => Publication.lastLineEnd snapshot
  | .content => 1
  | .behind => Publication.lastLineEnd snapshot + 1

/-- The requests that go before the text. -/
def Place.first (place : Place) (snapshot : Snapshot) : List Request :=
  match place with
  | .lastLine => []
  | .content => Publication.clearing snapshot
  | .behind => [.insertText (Publication.lastLineEnd snapshot) ['\n']]

/-- An operation that writes a document. -/
inductive Operation
  /-- Create a document with a title and fill it. -/
  | create (title : Option String) (source : Option Text)
  /-- Put Markdown into a document. -/
  | write (place : Place) (id : Option String) (source : Option Text)

/-- Markdown that is to be applied to a document at a position, with the requests that go
first in the same batch. -/
structure Draft where
  id : Option String
  source : Text
  start : Int
  first : List Request
  typography : Bool

namespace Draft

/-- What the Markdown compiles to. -/
def compilation (draft : Draft) : Compilation :=
  compileMarkdown draft.source draft.start draft.typography

/-- The batch of the text. -/
def requests (draft : Draft) : List Request :=
  draft.first ++ draft.compilation.requests

/-- Apply the Markdown. -/
def apply (client : Client σ) (draft : Draft) : Action σ Publication :=
  Publication.apply client draft.id draft.source draft.start draft.first draft.typography

/-- Insert the tables, when the text is there. -/
def insert (client : Client σ) (draft : Draft) : Action σ Publication :=
  Publication.insertTables client draft.id draft.compilation.tables >>= fun report =>
    pure { compilation := draft.compilation, report }

/-- An application sends its batch if there is one, and goes on with the tables. -/
theorem apply_eq (client : Client σ) (draft : Draft) :
    draft.apply client =
      if draft.requests.isEmpty then draft.insert client
      else client.mutate draft.id draft.requests >>= fun _ => draft.insert client := rfl

end Draft

namespace Operation

/-- Carry out an operation. -/
def run (client : Client σ) (typography : Bool) : Operation → Action σ String
  | create title source => Publication.createDocument client title source typography
  | write .lastLine id source => Publication.insertMarkdown client id source typography
  | write .content id source => Publication.replaceContent client id source typography
  | write .behind id source => Publication.appendMarkdown client id source typography

/-- Check the arguments of an operation. -/
def check : Operation → Except Failure Unit
  | create title source => do
      let _ ← validateTitle title
      let _ ← validateSource source
  | write _ id source => do
      let _ ← validateDocumentId id
      let _ ← validateSource source

/-- Whether a call is the first one of an operation. -/
inductive Begins : Operation → Exchange → Prop
  | create {title : Option String} {name : String} (htitle : validateTitle title = .ok name)
      (source : Option Text) (outcome : Except Failure (Option String)) :
      Begins (.create title source) (.create name outcome)
  | write {id : Option String} {name : String} (hid : validateDocumentId id = .ok name)
      (place : Place) (source : Option Text) (outcome : Except Failure Snapshot) :
      Begins (.write place id source) (.query (some name) outcome)

/-- Whether Markdown is to be applied after the first call of an operation. A document
that was created with blank Markdown is left as it is. -/
inductive Prepares (typography : Bool) : Operation → Exchange → Draft → Prop
  | create {title : Option String} {name : String} (htitle : validateTitle title = .ok name)
      {source : Text} (hfilled : ¬(trim source).isEmpty) (id : Option String) :
      Prepares typography (.create title (some source)) (.create name (.ok id))
        { id, source, start := 1, first := [], typography }
  | write {id : Option String} {name : String} (hid : validateDocumentId id = .ok name)
      (place : Place) (source : Text) (snapshot : Snapshot) :
      Prepares typography (.write place id (some source)) (.query (some name) (.ok snapshot))
        { id := some name, source, start := place.start snapshot, first := place.first snapshot,
          typography }

/-- The three ways to write differ in the position, in the requests that go first, and in the
message. -/
theorem exists_run_write (place : Place) : ∃ message : String → Snapshot → Publication → String,
    ∀ {σ : Type} (client : Client σ) (id : Option String) (source : Option Text)
      (typography : Bool),
      run client typography (.write place id source) = do
        let id ← .ofExcept (validateDocumentId id)
        let source ← .ofExcept (validateSource source)
        let snapshot ← client.query (some id)
        let publication ← Draft.apply client
          { id := some id, source, start := place.start snapshot, first := place.first snapshot,
            typography }
        return message id snapshot publication := by
  cases place with
  | lastLine => exact ⟨_, fun _ _ _ _ => rfl⟩
  | content => exact ⟨_, fun _ _ _ _ => rfl⟩
  | behind => exact ⟨_, fun _ _ _ _ => rfl⟩

end Operation

/-! ### Clients that agree -/

section Agrees

variable {related : σ → τ → Prop} {first : Client σ} {second : Client τ}
  (hclients : Client.Alike related first second)
include hclients

theorem Publication.agrees_insertTables (id : Option String) (tables : List TableDescriptor) :
    Agrees related (insertTables first id tables) (insertTables second id tables) := by
  intro state other hrelated
  obtain ⟨hresult, -, hafter⟩ :=
    Tracked.agrees_insertTables hclients id tables { state } { state := other } ⟨rfl, hrelated⟩
  rw [insertTables_eq, insertTables_eq]
  exact ⟨hresult, hafter⟩

theorem Draft.agrees_apply (draft : Draft) :
    Agrees related (draft.apply first) (draft.apply second) := by
  have hinsert : Agrees related (draft.insert first) (draft.insert second) :=
    (Publication.agrees_insertTables hclients _ _).bind fun _ => agrees_pure _
  rw [apply_eq, apply_eq]
  split
  next => exact hinsert
  next => exact (hclients.mutate _ _).bind fun _ => hinsert

/-- Clients that agree carry out the same operation. -/
theorem Operation.agrees_run (operation : Operation) (typography : Bool) :
    Agrees related (operation.run first typography) (operation.run second typography) := by
  cases operation with
  | create title source =>
      refine (agrees_ofExcept _).bind fun title => (agrees_ofExcept _).bind fun source => ?_
      refine (hclients.create title).bind fun id => ?_
      split
      next => exact agrees_pure _
      next => exact (Draft.agrees_apply hclients ⟨id, source, 1, [], typography⟩).bind fun _ =>
          agrees_pure _
  | write place id source =>
      obtain ⟨message, hmessage⟩ := exists_run_write place
      rw [hmessage, hmessage]
      refine (agrees_ofExcept _).bind fun id => (agrees_ofExcept _).bind fun source => ?_
      refine (hclients.query (some id)).bind fun snapshot => ?_
      exact (Draft.agrees_apply hclients _).bind fun _ => agrees_pure _

end Agrees

/-! ## The tables of a draft -/

/-- Whether the insertion of a table stops at an exchange: the exchange failed, or the
document that was read does not show the table. -/
inductive AnchoredTable.StoppedBy (table : AnchoredTable) (id : Option String) :
    Exchange → Failure → Prop
  | failed {exchange : Exchange} {failure : Failure} (hfailed : exchange.failure? = some failure) :
      StoppedBy table id exchange failure
  | missing {snapshot : Snapshot} (hmissing : snapshot.tableFrom? table.anchor = none) :
      StoppedBy table id (.query id (.ok snapshot))
        (Fault.service .general none (.tableMissing table.anchor)).alone

/-- Whether a failure says that the insertion of tables stopped, after some of them were
complete, at the last exchange of a record. -/
inductive Interrupts (id : Option String) (tables : List AnchoredTable) (log : List Exchange) :
    Failure → Prop
  | stopped {earlier : List Exchange} {exchange : Exchange} (hlast : log = earlier ++ [exchange])
      {completed : Nat} {table : AnchoredTable} (htable : tables[completed]? = some table)
      {cause : Failure} (hcause : table.StoppedBy id exchange cause) :
      Interrupts id tables log
        { fault := .tables (.failedAt table.anchor cause.fault.message) completed
            (tables.length - completed : Nat) cause.fault.status?
          cause := some cause.fault }

/-- A fault of the service says that the tables stopped, and a transient one does as well. -/
theorem Fault.stopsTables_of_isTranslated {fault : Fault} (htranslated : fault.isTranslated) :
    fault.stopsTables := by
  cases fault with
  | service category status issue => rfl
  | transient issue => rfl
  | _ => exact absurd htranslated (by simp [isTranslated])

/-- A failure of the service is put into other words, which name the anchor and both counts. -/
theorem AnchoredTable.failure_eq {table : AnchoredTable} {completed remaining : Nat}
    {cause : Failure} (htranslated : cause.fault.isTranslated) :
    table.failure completed remaining cause =
      { fault := .tables (.failedAt table.anchor cause.fault.message) completed remaining
          cause.fault.status?
        cause := some cause.fault } :=
  if_pos (Fault.stopsTables_of_isTranslated htranslated)

/-- The tables of a draft fit every document in which they are found. -/
theorem BreaksOffAt.interrupts {id : Option String} {tables : List AnchoredTable}
    {log earlier : List Exchange} {exchange : Exchange} {failure : Failure}
    (hgrid : ∀ table ∈ tables, table.table.IsGrid)
    (htranslated : ∀ cause, exchange.failure? = some cause → cause.fault.isTranslated)
    (hlast : log = earlier ++ [exchange]) (hbreaks : BreaksOffAt id 0 tables exchange failure) :
    Interrupts id tables log failure := by
  obtain ⟨completed, table, cause, htable, hstop, rfl⟩ := hbreaks
  rw [Nat.zero_add]
  cases hstop with
  | failed hfailed =>
      rw [AnchoredTable.failure_eq (htranslated cause hfailed)]
      exact .stopped hlast htable (.failed hfailed)
  | unfit hunfit =>
      cases hunfit with
      | missing hmissing =>
          rw [AnchoredTable.failure_eq rfl]
          exact .stopped hlast htable (.missing hmissing)
      -- A compiled table has all of its cells.
      | ragged hragged =>
          rw [(hgrid table (List.mem_of_getElem? htable)).claimed?_eq] at hragged
          exact absurd hragged (by simp)

namespace Draft

/-- The exchange of the batch of the text, if there is anything to send. -/
def batch (draft : Draft) (reply : Json) : List Exchange :=
  if draft.requests.isEmpty then [] else [.mutate draft.id draft.requests (.ok reply)]

/-- Whether records show that a draft is applied: the first one what becomes of the text,
the second one what becomes of the tables. The cause is what ended the application. -/
inductive Applies (draft : Draft) : List Exchange → List Exchange → Option Failure → Prop
  | unsent (failure : Failure) :
      Applies draft [.mutate draft.id draft.requests (.error failure)] [] (some failure)
  | stopped (reply : Json) {ordered : List AnchoredTable} {readings : List (Snapshot × Snapshot)}
      {insertion : List Exchange} {failure : Failure}
      (hinserts : Inserts draft.id draft.compilation.tables ordered readings insertion
        (some failure))
      (hinterrupts : Interrupts draft.id ordered insertion failure) :
      Applies draft (draft.batch reply) insertion (some failure)
  | applied (reply : Json) {ordered : List AnchoredTable} {readings : List (Snapshot × Snapshot)}
      {insertion : List Exchange}
      (hinserts : Inserts draft.id draft.compilation.tables ordered readings insertion none) :
      Applies draft (draft.batch reply) insertion none

variable {draft : Draft} {client : Client σ} {before after : Recorded σ}
  {result : Except Failure Publication}

/-- The tables that are inserted are compiled ones. -/
theorem isGrid_of_inserts {ordered : List AnchoredTable} {readings : List (Snapshot × Snapshot)}
    {insertion : List Exchange} {cause : Option Failure}
    (hinserts : Inserts draft.id draft.compilation.tables ordered readings insertion cause)
    {table : AnchoredTable} (hmem : table ∈ ordered) : table.table.IsGrid := by
  have hcompiled : table.table ∈ draft.compilation.tables :=
    hinserts.perm.mem_iff.mp (List.mem_map_of_mem hmem)
  obtain ⟨_, _, _, _, hgrid⟩ := compile_tables_anchored hcompiled
  exact hgrid

/-- Once the text is there, the calls are those that insert its tables. -/
theorem run_insertTables {outcome : Except Failure TableReport}
    (hrun : (Publication.insertTables client.recorded draft.id
      draft.compilation.tables).run.run before = (outcome, after)) :
    ∃ ordered readings insertion, after.log = before.log ++ insertion ∧
      Inserts draft.id draft.compilation.tables ordered readings insertion
        (failureOf? outcome) := by
  have htables : ∀ table ∈ draft.compilation.tables, ∃ anchor, table.anchor = some anchor := by
    intro table hmem
    obtain ⟨anchor, hanchor, _⟩ := compile_tables_anchored hmem
    exact ⟨anchor, hanchor⟩
  rcases htracked : (Tracked.insertTables client.recorded draft.id
    draft.compilation.tables).run.run { state := before } with ⟨inserted, tracked⟩
  rw [Publication.run_insertTables htracked] at hrun
  obtain ⟨rfl, rfl⟩ := Prod.mk.inj hrun
  exact Tracked.insertTables_inserts htables htracked

/-- The batch of the text has succeeded before any table is inserted. -/
theorem pairwise_batch_append (reply : Json) {insertion : List Exchange}
    (hinsertion : insertion.Pairwise fun earlier _ => earlier.failure? = none) :
    (draft.batch reply ++ insertion).Pairwise fun earlier _ => earlier.failure? = none := by
  -- There is a batch only if there is something to send.
  rw [batch]
  split
  next => exact hinsertion
  next => exact List.pairwise_cons.mpr ⟨fun _ _ => rfl, hinsertion⟩

/-- Nothing is done after a failure. -/
theorem Applies.pairwise {batch insertion : List Exchange} {cause : Option Failure}
    (happlies : draft.Applies batch insertion cause) :
    (batch ++ insertion).Pairwise fun earlier _ => earlier.failure? = none := by
  cases happlies with
  | unsent => exact List.pairwise_singleton _ _
  | stopped reply hinserts => exact pairwise_batch_append reply hinserts.follows.pairwise
  | applied reply hinserts => exact pairwise_batch_append reply hinserts.follows.pairwise

variable (htranslated : FailsTranslated after.log)
include htranslated

/-- The insertion of the tables of a draft is complete, or is said to have stopped. -/
theorem run_insert (hrun : (draft.insert client.recorded).run.run before = (result, after))
    (reply : Json) : ∃ insertion, after.log = before.log ++ insertion ∧
      draft.Applies (draft.batch reply) insertion (failureOf? result) := by
  rcases run_bind_cases hrun with ⟨failure, rfl, hinsert⟩ | ⟨report, between, hinsert, hrun⟩
  · obtain ⟨ordered, readings, insertion, hlog, hinserts⟩ := run_insertTables hinsert
    obtain ⟨earlier, exchange, hlast, hbreaks⟩ := hinserts.follows.exists_last
    -- The cause of a stop is the failure of the last exchange.
    have hmem : exchange ∈ after.log := by
      rw [hlog, hlast]
      simp
    exact ⟨insertion, hlog, .stopped reply hinserts (hbreaks.interrupts
      (fun _ hmem => isGrid_of_inserts hinserts hmem) (htranslated exchange hmem) hlast)⟩
  · obtain ⟨ordered, readings, insertion, hlog, hinserts⟩ := run_insertTables hinsert
    obtain ⟨rfl, rfl⟩ := Prod.mk.inj hrun
    exact ⟨insertion, hlog, .applied reply hinserts⟩

/-- A run of an application is one of the three that a draft can have. -/
theorem run_apply (hrun : (draft.apply client.recorded).run.run before = (result, after)) :
    ∃ batch insertion, after.log = before.log ++ (batch ++ insertion) ∧
      draft.Applies batch insertion (failureOf? result) := by
  rw [apply_eq] at hrun
  split at hrun
  -- There is nothing to send: the run goes straight to the tables.
  next hempty =>
    obtain ⟨insertion, hlog, happlies⟩ := run_insert htranslated hrun .null
    refine ⟨_, insertion, ?_, happlies⟩
    rw [hlog, batch, if_pos hempty, List.nil_append]
  next hempty =>
    rcases run_bind_cases hrun with ⟨failure, rfl, hmutate⟩ | ⟨reply, between, hmutate, hrun⟩
    · refine ⟨_, _, ?_, .unsent failure⟩
      rw [log_of_run_recorded hmutate, List.append_nil]
    · obtain ⟨insertion, hlog, happlies⟩ := run_insert htranslated hrun reply
      refine ⟨_, insertion, ?_, happlies⟩
      rw [hlog, log_of_run_recorded hmutate, batch, if_neg hempty, List.append_assoc]

end Draft

/-! ## Runs of operations -/

/-- A title is refused with a complaint about an argument, and in no other way. -/
theorem validateTitle_error {title : Option String} {failure : Failure}
    (hrefused : validateTitle title = .error failure) :
    ∃ issue, failure = (Fault.validation issue).alone := by
  unfold validateTitle at hrefused
  split at hrefused
  next =>
    split at hrefused
    next => exact ⟨_, (Except.error.inj hrefused).symm⟩
    next => exact absurd hrefused (by simp)
  next => exact ⟨_, (Except.error.inj hrefused).symm⟩

theorem validateSource_error {source : Option Text} {failure : Failure}
    (hrefused : validateSource source = .error failure) :
    ∃ issue, failure = (Fault.validation issue).alone := by
  cases source with
  | none => exact ⟨_, (Except.error.inj hrefused).symm⟩
  | some source => exact absurd hrefused (by simp [validateSource])

theorem validateSource_ok {source : Option Text} {text : Text}
    (hsource : validateSource source = .ok text) : source = some text := by
  cases source with
  | none => exact absurd hsource (by simp [validateSource, refuse])
  | some source => rw [Except.ok.inj hsource]

/-- An identifier is refused with a complaint about an argument, and in no other way. -/
theorem validateDocumentId_error {id : Option String} {name : String} {failure : Failure}
    (hrefused : validateDocumentId id name = .error failure) :
    ∃ issue, failure = (Fault.validation issue).alone := by
  cases id with
  | none => exact ⟨_, (Except.error.inj hrefused).symm⟩
  | some id =>
      simp only [validateDocumentId] at hrefused
      split at hrefused
      next => exact ⟨_, (Except.error.inj hrefused).symm⟩
      split at hrefused
      next => exact ⟨_, (Except.error.inj hrefused).symm⟩
      split at hrefused
      next => exact absurd hrefused (by simp)
      next => exact ⟨_, (Except.error.inj hrefused).symm⟩

namespace Operation

/-- How an operation ends, by the exchanges made before its tables and those made for its
tables. -/
inductive Concludes (operation : Operation) (typography : Bool) :
    List Exchange → List Exchange → Except Failure String → Prop
  | refused {issue : ValidationIssue}
      (hrefused : operation.check = .error (Fault.validation issue).alone) :
      Concludes operation typography [] [] (.error (Fault.validation issue).alone)
  | unopened {call : Exchange} {failure : Failure} (hbegins : operation.Begins call)
      (hfailed : call.failure? = some failure) :
      Concludes operation typography [call] [] (.error failure)
  | blank {title : Option String} {source : Text}
      (hoperation : operation = .create title (some source)) (hblank : (trim source).isEmpty)
      {call : Exchange} (hbegins : operation.Begins call) (hgood : call.failure? = none)
      (message : String) : Concludes operation typography [call] [] (.ok message)
  | drafted {call : Exchange} {draft : Draft} {batch insertion : List Exchange}
      {result : Except Failure String} (hprepares : operation.Prepares typography call draft)
      (happlies : draft.Applies batch insertion (failureOf? result)) :
      Concludes operation typography (call :: batch) insertion result

/-- After its first call an operation does nothing but apply a draft. -/
theorem concludes_of_apply {client : Client σ} {operation : Operation} {typography : Bool}
    {before between after : Recorded σ} {call : Exchange} {draft : Draft}
    {message : Publication → String} {result : Except Failure String}
    (hlog : between.log = before.log ++ [call])
    (hprepares : operation.Prepares typography call draft)
    (hrun : (draft.apply client.recorded >>= fun publication =>
      pure (message publication)).run.run between = (result, after))
    (htranslated : FailsTranslated after.log) :
    ∃ opening insertion, after.log = before.log ++ (opening ++ insertion) ∧
      operation.Concludes typography opening insertion result := by
  -- What the application answers only goes into the message.
  rcases happly : (draft.apply client.recorded).run.run between with ⟨applied, last⟩
  rw [run_bind_pure happly] at hrun
  obtain ⟨rfl, rfl⟩ := Prod.mk.inj hrun
  obtain ⟨batch, insertion, hadded, happlies⟩ := draft.run_apply htranslated happly
  refine ⟨call :: batch, insertion, ?_, .drafted hprepares ?_⟩
  · rw [hadded, hlog, List.append_assoc]
    rfl
  · cases applied <;> exact happlies

/-- Whatever the service answers, a run ends in one of four ways: refused without a call, with its
first call, with a document left blank, or with a draft applied. -/
theorem run_concludes {client : Client σ} {operation : Operation} {typography : Bool}
    {before after : Recorded σ} {result : Except Failure String}
    (hrun : (operation.run client.recorded typography).run.run before = (result, after))
    (htranslated : FailsTranslated after.log) :
    ∃ opening insertion, after.log = before.log ++ (opening ++ insertion) ∧
      operation.Concludes typography opening insertion result := by
  -- Two checks, and the first call; what is done after it is to apply a draft.
  cases operation with
  | create title source =>
      rcases run_check_cases hrun with ⟨failure, htitle, rfl, rfl⟩ | ⟨name, htitle, hsources⟩
      · obtain ⟨issue, rfl⟩ := validateTitle_error htitle
        exact ⟨[], [], by simp, .refused (by rw [check, htitle]; rfl)⟩
      rcases run_check_cases hsources with ⟨failure, hsource, rfl, rfl⟩ | ⟨text, hsource, hcreates⟩
      · obtain ⟨issue, rfl⟩ := validateSource_error hsource
        exact ⟨[], [], by simp, .refused (by rw [check, htitle, hsource]; rfl)⟩
      obtain rfl := validateSource_ok hsource
      rcases run_bind_cases hcreates with ⟨failure, rfl, hcreate⟩ | ⟨id, between, hcreate, hrest⟩
      · refine ⟨_, [], ?_, .unopened (.create htitle _ (.error failure)) rfl⟩
        rw [log_of_run_recorded hcreate, List.append_nil]
      have hlog := log_of_run_recorded hcreate
      split at hrest
      next hblank =>
        obtain ⟨rfl, rfl⟩ := Prod.mk.inj hrest
        refine ⟨_, [], ?_, .blank rfl hblank (.create htitle _ (.ok id)) rfl _⟩
        rw [hlog, List.append_nil]
      next hfilled =>
        exact concludes_of_apply hlog (.create htitle hfilled id) hrest htranslated
  | write place id source =>
      obtain ⟨message, hmessage⟩ := exists_run_write place
      rw [hmessage] at hrun
      rcases run_check_cases hrun with ⟨failure, hid, rfl, rfl⟩ | ⟨name, hid, hsources⟩
      · obtain ⟨issue, rfl⟩ := validateDocumentId_error hid
        exact ⟨[], [], by simp, .refused (by rw [check, hid]; rfl)⟩
      rcases run_check_cases hsources with ⟨failure, hsource, rfl, rfl⟩ | ⟨text, hsource, hqueries⟩
      · obtain ⟨issue, rfl⟩ := validateSource_error hsource
        exact ⟨[], [], by simp, .refused (by rw [check, hid, hsource]; rfl)⟩
      obtain rfl := validateSource_ok hsource
      rcases run_bind_cases hqueries with
        ⟨failure, rfl, hquery⟩ | ⟨snapshot, between, hquery, hrest⟩
      · refine ⟨_, [], ?_, .unopened (.write hid place _ (.error failure)) rfl⟩
        rw [log_of_run_recorded hquery, List.append_nil]
      exact concludes_of_apply (log_of_run_recorded hquery) (.write hid place text snapshot) hrest
        htranslated

/-! ## The contract of an operation -/

/-- What the records of an operation show, and what they have to do with its result. -/
structure KeepsContract (operation : Operation) (typography : Bool)
    (opening insertion : List Exchange) (attempts : List Attempt)
    (result : Except Failure String) : Prop where
  /-- The operation makes its calls in order and ends with the failure of the last one. -/
  concludes : operation.Concludes typography opening insertion result
  /-- Each call is answered by attempts of its own, in the order of the calls. -/
  serves : Serves attempts (opening ++ insertion)
  /-- A batch is sent once, and a document is created once. -/
  writes_once : (attempts.map Attempt.call).filter Call.writes =
    ((opening ++ insertion).map Exchange.call).filter Call.writes
  /-- Nothing is attempted after a failure, but to read a document again when the secure
  channel failed. -/
  repeats_reads : attempts.IsChain Attempt.Precedes
  /-- No call is made after one that failed. -/
  stops_at_failure : (opening ++ insertion).Pairwise fun earlier _ => earlier.failure? = none
  /-- A call fails with an error in one of the categories for failed calls. -/
  fails_translated : FailsTranslated (opening ++ insertion)
  /-- The error is the translation of what the service raised at an attempt. -/
  translates : ∀ exchange ∈ opening ++ insertion, ∀ failure, exchange.failure? = some failure →
    ∃ cause count, { call := exchange.call, outcome := .error cause } ∈ attempts ∧
      failure = exchange.call.guard.translate count cause

/-- A draft is prepared only after a first call that succeeded. -/
theorem Prepares.failure?_eq {operation : Operation} {typography : Bool} {call : Exchange}
    {draft : Draft} (hprepares : operation.Prepares typography call draft) :
    call.failure? = none := by
  cases hprepares with
  | create => rfl
  | write => rfl

/-- Nothing is done after a failure, in the tables or before. -/
theorem Concludes.pairwise {operation : Operation} {typography : Bool}
    {opening insertion : List Exchange} {result : Except Failure String}
    (hconcludes : operation.Concludes typography opening insertion result) :
    (opening ++ insertion).Pairwise fun earlier _ => earlier.failure? = none := by
  cases hconcludes with
  | refused => exact List.Pairwise.nil
  | unopened => exact List.pairwise_singleton _ _
  | blank => exact List.pairwise_singleton _ _
  | drafted hprepares happlies =>
      exact List.pairwise_cons.mpr ⟨fun _ _ => hprepares.failure?_eq, happlies.pairwise⟩

/-- Whatever a service answers, and however often it fails, an operation keeps its contract.
The calls and the attempts are those of the operation itself: without the records it has
the same result and leaves the service in the same state. -/
theorem run_keeps_contract {service : Service σ} (hservice : service.IsExternal)
    (operation : Operation) (typography : Bool) (state : σ) :
    ∃ result opening insertion attempts after,
      (operation.run service.recorded.client.recorded typography).run.run
        { state := { state } } =
          (result, { log := opening ++ insertion, state := { attempts, state := after } }) ∧
      (operation.run service.client typography).run.run state = (result, after) ∧
      operation.KeepsContract typography opening insertion attempts result := by
  rcases hrun : (operation.run service.recorded.client.recorded typography).run.run
    { state := { state } } with ⟨result, log, attempts, after⟩
  rcases hbare : (operation.run service.client typography).run.run state with ⟨bare, last⟩
  have hfaithful := operation.agrees_run (service.client_faithful hservice) typography
    { state := { state } } state ⟨rfl, .nil, by simp⟩
  rw [hrun, hbare] at hfaithful
  obtain ⟨rfl, rfl, hserves, hexternal⟩ := hfaithful
  have htranslated := hserves.failsTranslated hexternal
  obtain ⟨opening, insertion, hlog, hconcludes⟩ := run_concludes hrun htranslated
  obtain rfl : log = opening ++ insertion := hlog
  exact ⟨result, opening, insertion, attempts, after, rfl, rfl, hconcludes, hserves,
    hserves.writes_once, hserves.isChain hconcludes.pairwise, hconcludes.pairwise, htranslated,
    fun _ hmem _ hfailed => hserves.exists_cause hmem hfailed⟩

/-- A reply of a service that has too much to do. -/
def busy : ErrorReply :=
  { status := some 503, reason := none, body := "" }

/-- The failure of a run whose only table is refused by a busy service. -/
def tableRefused : Failure :=
  { fault := .tables (.failedAt 3 (ServiceIssue.refused "documents.batchUpdate" busy).message)
      0 1 busy.status
    cause := some (.service .general busy.status (.refused "documents.batchUpdate" busy)) }

/-- A document is created and its text is sent, and then the table is refused. -/
theorem run_keeps_contract_titledTable :
    Service.rehearsed.IsExternal ∧ ∃ opening insertion attempts after,
      (run Service.rehearsed.recorded.client.recorded false
        (.create (some "t") (some titledTable))).run.run
          { state := { state := [.reply (.object [("documentId", .string ['d'])]), .reply .null,
            .refusal busy] } } =
        (.error tableRefused, { log := opening ++ insertion
                                state := { attempts, state := after } }) ∧
      KeepsContract (.create (some "t") (some titledTable)) false opening insertion attempts
        (.error tableRefused) := by
  refine ⟨Service.rehearsed_isExternal, ?_⟩
  obtain ⟨result, opening, insertion, attempts, after, hrun, hbare, hkeeps⟩ :=
    run_keeps_contract Service.rehearsed_isExternal (.create (some "t") (some titledTable)) false
      [.reply (.object [("documentId", .string ['d'])]), .reply .null, .refusal busy]
  have htitle : validateTitle (some "t") = .ok "t" := by decide +kernel
  have hsource : validateSource (some titledTable) = .ok titledTable := rfl
  have hcompile : compileMarkdown titledTable 1 false =
      compile [{ kind := .paragraph, content := [{ kind := .text, text := ['T'] }] },
        { kind := .table, header := [[{ kind := .text, text := ['H'] }]] }] 1 := by
    rw [compileMarkdown, if_neg Bool.false_ne_true, ofMarkdown_titledTable]
  have hresult : result = .error tableRefused := by
    rw [run, Publication.createDocument, (yields_ofExcept htitle).run_bind,
      (yields_ofExcept hsource).run_bind] at hbare
    simp only [Publication.apply, hcompile] at hbare
    rw [← (Prod.mk.inj hbare).1]
    decide +kernel
  subst hresult
  exact ⟨opening, insertion, attempts, after, hrun, hkeeps⟩

end Operation

end DocPress
