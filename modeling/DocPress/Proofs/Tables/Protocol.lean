import DocPress.Proofs.Tables.Placement
import DocPress.Proofs.Tables.Plan

/-!
# The order of the calls that insert tables

Whatever a client does, the calls of a run that inserts tables are the first ones of the
plan for these tables, the last table first. A run stops at the first call that fails or
at a document that a table does not fit, and it never takes a position from a document
that has changed since it was read.
-/

namespace DocPress

variable {σ α : Type}

/-! ## Runs -/

/-- Whether a table breaks off a run at an exchange: because the exchange failed, or
because the table does not fit the document that was read. -/
inductive AnchoredTable.BreaksOff (table : AnchoredTable) (id : Option String) :
    Exchange → Failure → Prop
  | failed {exchange : Exchange} {failure : Failure} (hfailed : exchange.failure? = some failure) :
      BreaksOff table id exchange failure
  | unfit {snapshot : Snapshot} {failure : Failure} (hunfit : table.Unfit snapshot failure) :
      BreaksOff table id (.query id (.ok snapshot)) failure

/-- Whether one of several tables breaks off a run at an exchange. The failure says how
many tables are complete and how many are not; some were complete already. -/
def BreaksOffAt (id : Option String) (completed : Nat) (tables : List AnchoredTable)
    (exchange : Exchange) (failure : Failure) : Prop :=
  ∃ (index : Nat) (table : AnchoredTable) (cause : Failure),
    tables[index]? = some table ∧ table.BreaksOff id exchange cause ∧
    failure = table.failure (completed + index) (tables.length - index) cause

theorem BreaksOffAt.cons {id : Option String} {completed : Nat}
    {rest : List AnchoredTable} {exchange : Exchange} {failure : Failure}
    (hbreaks : BreaksOffAt id (completed + 1) rest exchange failure)
    (table : AnchoredTable) : BreaksOffAt id completed (table :: rest) exchange failure := by
  obtain ⟨index, other, cause, hindex, hstop, rfl⟩ := hbreaks
  refine ⟨index + 1, other, cause, hindex, hstop, ?_⟩
  rw [List.length_cons, Nat.add_sub_add_right, Nat.add_assoc, Nat.add_comm 1 index]

/-- Whether the record grows, from one state to another, by exchanges that follow a
plan. -/
def Proceeds (id : Option String) (breaksOff : Exchange → Failure → Prop) (plan : List Step)
    (before after : Tracked (Recorded σ)) (cause : Option Failure) : Prop :=
  ∃ added, after.state.log = before.state.log ++ added ∧ Follows id breaksOff plan added cause

section Proceeds

variable {id : Option String} {breaksOff : Exchange → Failure → Prop}
  {before between after : Tracked (Recorded σ)} {step : Step} {plan later : List Step}
  {exchange : Exchange} {cause : Option Failure}

theorem proceeds_nil (tracked : Tracked (Recorded σ)) :
    Proceeds id breaksOff [] tracked tracked none :=
  ⟨[], (List.append_nil _).symm, .nil⟩

theorem proceeds_stop {failure : Failure} (hlog : after.state.log = before.state.log ++ [exchange])
    (hcarried : step.CarriedBy id exchange) (hstop : breaksOff exchange failure)
    (plan : List Step) : Proceeds id breaksOff (step :: plan) before after (some failure) :=
  ⟨[exchange], hlog, .stop hcarried hstop plan⟩

theorem Proceeds.cons (hplan : Proceeds id breaksOff plan between after cause)
    (hlog : between.state.log = before.state.log ++ [exchange])
    (hcarried : step.CarriedBy id exchange) (hgood : exchange.failure? = none) :
    Proceeds id breaksOff (step :: plan) before after cause := by
  obtain ⟨added, hadded, hfollows⟩ := hplan
  refine ⟨exchange :: added, ?_, .cons hcarried hgood hfollows⟩
  rw [hadded, hlog, List.append_assoc, List.singleton_append]

theorem Proceeds.append (hplan : Proceeds id breaksOff plan before between none)
    (hlater : Proceeds id breaksOff later between after cause) :
    Proceeds id breaksOff (plan ++ later) before after cause := by
  obtain ⟨first, hfirst, hplan⟩ := hplan
  obtain ⟨second, hsecond, hlater⟩ := hlater
  refine ⟨first ++ second, ?_, hplan.append hlater⟩
  rw [hsecond, hfirst, List.append_assoc]

/-- What comes later in a plan does not matter for a run that was broken off. -/
theorem Proceeds.extend {failure : Failure}
    (hplan : Proceeds id breaksOff plan before after (some failure)) (later : List Step) :
    Proceeds id breaksOff (plan ++ later) before after (some failure) := by
  obtain ⟨added, hadded, hfollows⟩ := hplan
  exact ⟨added, hadded, hfollows.extend later⟩

theorem Proceeds.imp {others : Exchange → Failure → Prop} {change : Failure → Failure}
    (hplan : Proceeds id breaksOff plan before after cause)
    (himp : ∀ exchange failure, breaksOff exchange failure → others exchange (change failure)) :
    Proceeds id others plan before after (cause.map change) := by
  obtain ⟨added, hadded, hfollows⟩ := hplan
  exact ⟨added, hadded, hfollows.imp himp⟩

end Proceeds

namespace Tracked

variable {client : Client σ} {id : Option String} {table : AnchoredTable}
  {before after : Tracked (Recorded σ)}

/-- A reading is recorded, whether it fails, shows no table or shows one. A layout that is
found has the generation at hand. -/
theorem run_locate_cases {anchor : Int} {result : Except Failure TableLayout}
    (hrun : (locate client.recorded id anchor).run.run before = (result, after)) :
    (∃ failure, result = .error failure ∧
        after.state.log = before.state.log ++ [.query id (.error failure)]) ∨
      ∃ snapshot, after.state.log = before.state.log ++ [.query id (.ok snapshot)] ∧
        ((snapshot.tableFrom? anchor = none ∧
            result = .error (Fault.service .general none (.tableMissing anchor)).alone) ∨
          ∃ layout, snapshot.tableFrom? anchor = some layout ∧
            result = .ok (layout.at after.generation)) := by
  rcases run_bind_cases hrun with ⟨failure, rfl, hquery⟩ | ⟨snapshot, between, hquery, hrun⟩
  · exact Or.inl ⟨failure, rfl, log_of_run_query hquery⟩
  · have hlog := log_of_run_query hquery
    rw [yields_get.run_bind] at hrun
    simp only [find?_tables] at hrun
    cases htable : snapshot.tableFrom? anchor with
    | none =>
        rw [htable] at hrun
        obtain ⟨rfl, rfl⟩ := Prod.mk.inj hrun
        exact Or.inr ⟨snapshot, hlog, Or.inl ⟨htable, rfl⟩⟩
    | some layout =>
        rw [htable] at hrun
        obtain ⟨rfl, rfl⟩ := Prod.mk.inj hrun
        exact Or.inr ⟨snapshot, hlog, Or.inr ⟨layout, htable, rfl⟩⟩

section Steps

variable {ι : Type} [Inhabited ι] {result : Except Failure α}

/-- A batch is sent and the run goes on, or the run ends with the batch. -/
theorem proceeds_mutate {requests : List Request} {rest : Json → Action (Tracked (Recorded σ)) α}
    {plan : ι → List Step}
    (hrun : (mutate client.recorded id requests >>= rest).run.run before = (result, after))
    (hrest : ∀ {reply between}, (rest reply).run.run between = (result, after) →
      ∃ index, Proceeds id (table.BreaksOff id) (plan index) between after (failureOf? result)) :
    ∃ index, Proceeds id (table.BreaksOff id) (.edit requests :: plan index) before after
      (failureOf? result) := by
  rcases run_bind_cases hrun with ⟨failure, rfl, hmutate⟩ | ⟨reply, between, hmutate, hrun⟩
  · exact ⟨default, proceeds_stop (log_of_run_mutate hmutate) (.edit _ _) (.failed rfl) _⟩
  · obtain ⟨index, hplan⟩ := hrest hrun
    exact ⟨index, hplan.cons (log_of_run_mutate hmutate) (.edit _ _) rfl⟩

/-- A batch without requests is not sent, and the run ends. -/
theorem proceeds_batch {requests : List Request} {value : α}
    {rest : Json → Action (Tracked (Recorded σ)) α} {plan : ι → List Step}
    (hrun : (if requests.isEmpty then pure value
      else mutate client.recorded id requests >>= rest).run.run before = (result, after))
    (hrest : ∀ {reply between}, (rest reply).run.run between = (result, after) →
      ∃ index, Proceeds id (table.BreaksOff id) (plan index) between after (failureOf? result)) :
    ∃ index, Proceeds id (table.BreaksOff id)
      (if requests = [] then [] else .edit requests :: plan index) before after
      (failureOf? result) := by
  by_cases hnil : requests = []
  · rw [hnil] at hrun
    obtain ⟨rfl, rfl⟩ := Prod.mk.inj hrun
    simp only [if_pos hnil]
    exact ⟨default, proceeds_nil _⟩
  · rw [if_neg (by simpa using hnil)] at hrun
    simp only [if_neg hnil]
    exact proceeds_mutate hrun hrest

/-- The document is read, and the run goes on with the table found there or ends. -/
theorem proceeds_locate {rest : TableLayout → Action (Tracked (Recorded σ)) α}
    {plan : Snapshot → ι → List Step}
    (hrun : (locate client.recorded id table.anchor >>= rest).run.run before = (result, after))
    (hrest : ∀ {snapshot layout between}, snapshot.tableFrom? table.anchor = some layout →
      (rest (layout.at between.generation)).run.run between = (result, after) →
      (∃ failure, table.Unfit snapshot failure ∧ result = .error failure ∧ after = between) ∨
        ∃ index, Proceeds id (table.BreaksOff id) (plan snapshot index) between after
          (failureOf? result)) :
    ∃ snapshot index, Proceeds id (table.BreaksOff id) (.read snapshot :: plan snapshot index)
      before after (failureOf? result) := by
  rcases run_bind_cases hrun with ⟨failure, rfl, hlocate⟩ | ⟨found, between, hlocate, hrun⟩
  · rcases run_locate_cases hlocate with
      ⟨_, hresult, hlog⟩ | ⟨snapshot, hlog, ⟨htable, hresult⟩ | ⟨_, _, hresult⟩⟩
    · obtain rfl := Except.error.inj hresult
      exact ⟨default, default, proceeds_stop hlog (.failedRead _ _) (.failed rfl) _⟩
    · obtain rfl := Except.error.inj hresult
      exact ⟨snapshot, default, proceeds_stop hlog (.read _) (.unfit (.missing htable)) _⟩
    · exact absurd hresult (by simp)
  · rcases run_locate_cases hlocate with
      ⟨_, hresult, _⟩ | ⟨snapshot, hlog, ⟨_, hresult⟩ | ⟨layout, htable, hresult⟩⟩
    · exact absurd hresult (by simp)
    · exact absurd hresult (by simp)
    · obtain rfl := Except.ok.inj hresult
      rcases hrest htable hrun with ⟨failure, hunfit, rfl, rfl⟩ | ⟨index, hplan⟩
      · exact ⟨snapshot, default, proceeds_stop hlog (.read _) (.unfit hunfit) _⟩
      · exact ⟨snapshot, index, hplan.cons hlog (.read _) rfl⟩

end Steps

/-- The header is made bold at a layout read right before, or not at all. -/
theorem boldHeader_proceeds {result : Except Failure Nat}
    (hrun : (boldHeader client.recorded id table).run.run before = (result, after)) :
    ∃ second, Proceeds id (table.BreaksOff id) (table.headerSteps second) before after
      (failureOf? result) := by
  unfold boldHeader at hrun
  unfold AnchoredTable.headerSteps
  by_cases hheader : ∃ text ∈ table.table.headerCells, text ≠ []
  · have hall : ¬table.table.headerCells.all List.isEmpty := by simpa using hheader
    rw [if_neg hall] at hrun
    simp only [if_pos hheader]
    have hsteps : ∃ (second : Snapshot) (_ : Unit), Proceeds id (table.BreaksOff id)
        (.read second :: table.boldSteps second) before after (failureOf? result) := by
      refine proceeds_locate hrun fun {second layout between} htable hrun => Or.inr ?_
      -- Nothing was sent since the layout was read.
      have hfresh : (layout.at between.generation).generation = between.generation := rfl
      rw [(yields_boldRequests hfresh).run_bind, boldRequests_at] at hrun
      rw [AnchoredTable.boldSteps_eq htable]
      refine proceeds_batch hrun fun hrun => ⟨(), ?_⟩
      obtain ⟨rfl, rfl⟩ := Prod.mk.inj hrun
      exact proceeds_nil _
    obtain ⟨second, _, hsteps⟩ := hsteps
    exact ⟨second, hsteps⟩
  · have hall : table.table.headerCells.all List.isEmpty := by simpa using hheader
    rw [if_pos hall] at hrun
    simp only [if_neg hheader]
    obtain ⟨rfl, rfl⟩ := Prod.mk.inj hrun
    exact ⟨default, proceeds_nil _⟩

/-- One table is inserted by the steps of its plan. -/
theorem insertTable_proceeds {result : Except Failure TableReport}
    (hrun : (insertTable client.recorded id table).run.run before = (result, after)) :
    ∃ reading : Snapshot × Snapshot, Proceeds id (table.BreaksOff id)
      (table.steps reading.1 reading.2) before after (failureOf? result) := by
  refine proceeds_mutate hrun fun {_ inserted} hrun => ?_
  have hsteps : ∃ first second, Proceeds id (table.BreaksOff id)
      (.read first :: table.fillSteps first second) inserted after (failureOf? result) := by
    refine proceeds_locate hrun fun {first layout between} htable hrun => ?_
    -- Nothing was sent since the layout was read, so that it is not refused.
    have hfresh : (layout.at between.generation).generation = between.generation := rfl
    cases hrows : table.table.claimed? with
    | none =>
        have hfailed : (cellBatch (layout.at between.generation) table.table).run.run between =
            (.error Fault.outOfRange.alone, between) := by
          rw [cellBatch, (yields_requireFresh hfresh).run_bind, cellBatch_at,
            cellBatch_eq_error layout hrows]
          rfl
        rw [run_bind_of_failed hfailed] at hrun
        obtain ⟨rfl, rfl⟩ := Prod.mk.inj hrun
        exact Or.inl ⟨_, .ragged hrows, rfl, rfl⟩
    | some rows =>
        obtain ⟨batch, hbatch, hrequests⟩ := exists_cellBatch layout hrows
        rw [(yields_cellBatch hfresh hbatch).run_bind, hrequests] at hrun
        simp only [AnchoredTable.fillSteps_eq htable hrows]
        refine Or.inr (proceeds_batch hrun fun hrun => ?_)
        rcases run_bind_cases hrun with ⟨failure, rfl, hbold⟩ | ⟨bolded, filled, hbold, hrun⟩
        · exact boldHeader_proceeds hbold
        · obtain ⟨rfl, rfl⟩ := Prod.mk.inj hrun
          exact boldHeader_proceeds hbold
  obtain ⟨first, second, hsteps⟩ := hsteps
  exact ⟨(first, second), hsteps⟩

/-! ### Several tables -/

/-- The first of several tables: its failures are reported as those of the insertion. -/
theorem first_proceeds {rest : List AnchoredTable} {completed : Nat}
    {result : Except Failure TableReport}
    (hrun : (tryCatch (insertTable client.recorded id table) fun failure =>
      Action.fail (table.failure completed (rest.length + 1) failure)).run.run before =
        (result, after)) :
    ∃ reading : Snapshot × Snapshot, Proceeds id (BreaksOffAt id completed (table :: rest))
      (table.steps reading.1 reading.2) before after (failureOf? result) := by
  rw [run_tryCatch] at hrun
  rcases hinsert : (insertTable client.recorded id table).run.run before with ⟨outcome, between⟩
  obtain ⟨reading, hsteps⟩ := insertTable_proceeds hinsert
  have hbreaks : ∀ exchange failure, table.BreaksOff id exchange failure →
      BreaksOffAt id completed (table :: rest) exchange
        (table.failure completed (rest.length + 1) failure) :=
    fun _ failure hstop => ⟨0, table, failure, rfl, hstop, rfl⟩
  rw [hinsert] at hrun
  cases outcome with
  | error failure =>
      obtain ⟨rfl, rfl⟩ := Prod.mk.inj hrun
      exact ⟨reading, hsteps.imp hbreaks⟩
  | ok report =>
      obtain ⟨rfl, rfl⟩ := Prod.mk.inj hrun
      exact ⟨reading, hsteps.imp hbreaks⟩

/-- Tables are inserted one after the other by the steps of their plan. -/
theorem insertFrom_proceeds {tables : List AnchoredTable} {completed : Nat}
    {result : Except Failure TableReport}
    (hrun : (insertFrom client.recorded id completed tables).run.run before = (result, after)) :
    ∃ readings, readings.length = tables.length ∧
      Proceeds id (BreaksOffAt id completed tables) (AnchoredTable.plan tables readings)
        before after (failureOf? result) := by
  induction tables generalizing completed before result with
  | nil =>
      obtain ⟨rfl, rfl⟩ := Prod.mk.inj hrun
      exact ⟨[], rfl, proceeds_nil _⟩
  | cons table rest ih =>
      rcases run_bind_cases hrun with ⟨failure, rfl, hfirst⟩ | ⟨report, between, hfirst, hrun⟩
      · -- The tables that are not reached have no readings; any documents will do.
        obtain ⟨reading, hsteps⟩ := first_proceeds hfirst
        refine ⟨reading :: List.replicate rest.length default, by simp, ?_⟩
        exact hsteps.extend _
      · obtain ⟨reading, hsteps⟩ := first_proceeds hfirst
        have hrest : ∃ readings, readings.length = rest.length ∧
            Proceeds id (BreaksOffAt id (completed + 1) rest) (AnchoredTable.plan rest readings)
              between after (failureOf? result) := by
          rcases run_bind_cases hrun with ⟨failure, rfl, hothers⟩ | ⟨others, state, hothers, hrun⟩
          · exact ih hothers
          · obtain ⟨rfl, rfl⟩ := Prod.mk.inj hrun
            have hplan := ih hothers
            exact hplan
        obtain ⟨readings, hlength, hplan⟩ := hrest
        -- A stop among the others counts this table as complete.
        have hlater : Proceeds id (BreaksOffAt id completed (table :: rest))
            (AnchoredTable.plan rest readings) between after
            ((failureOf? result).map fun failure => failure) :=
          hplan.imp fun _ _ hbreaks => BreaksOffAt.cons hbreaks table
        rw [Option.map_id'] at hlater
        exact ⟨reading :: readings, congrArg (· + 1) hlength, hsteps.append hlater⟩

end Tracked

theorem lastFirst_perm (tables : List TableDescriptor) :
    (AnchoredTable.lastFirst (tables.map TableDescriptor.anchored)).Perm
      (tables.map TableDescriptor.anchored) := List.mergeSort_perm _ _

/-- Each table is inserted once. -/
theorem map_table_lastFirst_perm (tables : List TableDescriptor) :
    ((AnchoredTable.lastFirst (tables.map TableDescriptor.anchored)).map
      AnchoredTable.table).Perm tables := by
  have htable := (lastFirst_perm tables).map AnchoredTable.table
  rw [List.map_map] at htable
  simpa [Function.comp_def, TableDescriptor.anchored] using htable

theorem anchor_eq_of_mem_lastFirst {tables : List TableDescriptor}
    (htables : ∀ table ∈ tables, ∃ anchor, table.anchor = some anchor) :
    ∀ placed ∈ AnchoredTable.lastFirst (tables.map TableDescriptor.anchored),
      placed.table.anchor = some placed.anchor := by
  intro placed hmem
  obtain ⟨table, htable, rfl⟩ := List.mem_map.mp ((lastFirst_perm tables).mem_iff.mp hmem)
  obtain ⟨anchor, hanchor⟩ := htables table htable
  rw [anchored_anchor hanchor]
  exact hanchor

/-- Whether a record follows the plan for tables, the last one first. -/
structure Inserts (id : Option String) (tables : List TableDescriptor)
    (ordered : List AnchoredTable) (readings : List (Snapshot × Snapshot)) (log : List Exchange)
    (cause : Option Failure) : Prop where
  /-- Each table is inserted once. -/
  perm : (ordered.map AnchoredTable.table).Perm tables
  /-- Each table is inserted at its anchor. -/
  anchor_eq : ∀ table ∈ ordered, table.table.anchor = some table.anchor
  /-- The last anchor comes first. -/
  descends : ordered.Pairwise fun first second => second.anchor ≤ first.anchor
  /-- The plan has two readings for each table. -/
  length_eq : readings.length = ordered.length
  /-- The record is that of the plan, up to the exchange that breaks it off. -/
  follows : Follows id (BreaksOffAt id 0 ordered) (AnchoredTable.plan ordered readings) log cause

/-- A run that inserts tables adds to the record what the plan for them says. -/
theorem Tracked.insertTables_inserts {client : Client σ} {id : Option String}
    {tables : List TableDescriptor} {before after : Tracked (Recorded σ)}
    {result : Except Failure TableReport}
    (htables : ∀ table ∈ tables, ∃ anchor, table.anchor = some anchor)
    (hrun : (insertTables client.recorded id tables).run.run before = (result, after)) :
    ∃ ordered readings added, after.state.log = before.state.log ++ added ∧
      Inserts id tables ordered readings added (failureOf? result) := by
  rw [insertTables, (yields_ofExcept (ofTables_eq htables)).run_bind] at hrun
  obtain ⟨readings, hlength, added, hadded, hplan⟩ := insertFrom_proceeds hrun
  exact ⟨_, readings, added, hadded, map_table_lastFirst_perm tables,
    anchor_eq_of_mem_lastFirst htables, lastFirst_descends _, hlength, hplan⟩

/-! ## The protocol -/

/-- What the record of a run shows, when tables are inserted in the order given, and what
it has to do with the result of the run. -/
structure KeepsProtocol (id : Option String) (tables : List AnchoredTable)
    (readings : List (Snapshot × Snapshot)) (log : List Exchange)
    (result : Except Failure TableReport) : Prop where
  /-- The calls are those of a first part of the plan. -/
  carries_prefix : ∃ taken, taken <+: AnchoredTable.plan tables readings ∧
    List.Forall₂ (Step.CarriedBy id) taken log
  /-- No call is made after one that failed. -/
  stops_at_failure : ∀ {before later : List Exchange} {exchange : Exchange} {failure : Failure},
    log = before ++ exchange :: later → exchange.failure? = some failure → later = []
  /-- A batch that takes positions from a document comes right after the call that read
  this document. -/
  reads_before_batch : ∀ {before later : List Exchange} {requests : List Request}
    {outcome : Except Failure Json}, log = before ++ .mutate id requests outcome :: later →
      Supported id tables before requests
  /-- A run that succeeds has carried out the plan to its end. -/
  carries_all : ∀ {report : TableReport}, result = .ok report →
    List.Forall₂ (Step.CarriedBy id) (AnchoredTable.plan tables readings) log
  /-- A run fails at its last call only, because the call failed or because it read a
  document that a table does not fit. -/
  fails_at_last : ∀ {failure : Failure}, result = .error failure →
    ∃ earlier exchange, log = earlier ++ [exchange] ∧ BreaksOffAt id 0 tables exchange failure
  /-- No layout is ever refused as stale: a failure that says so is the client's own. -/
  stale_passed_on : ∀ {failure : Failure} {layout current : Int}, result = .error failure →
    failure.fault = .stale layout current →
      ∃ earlier exchange, log = earlier ++ [exchange] ∧ exchange.failure? = some failure

/-- A failure that positions are stale is passed on as it is; no table raises it. -/
theorem BreaksOffAt.failure?_of_stale {id : Option String} {completed : Nat}
    {tables : List AnchoredTable} {exchange : Exchange} {failure : Failure} {layout current : Int}
    (hbreaks : BreaksOffAt id completed tables exchange failure)
    (hstale : failure.fault = .stale layout current) : exchange.failure? = some failure := by
  obtain ⟨index, table, cause, _, hstop, rfl⟩ := hbreaks
  rw [AnchoredTable.failure] at hstale ⊢
  -- A failure that was put into other words says nothing of stale positions any more.
  by_cases hstops : cause.fault.stopsTables
  · rw [if_pos hstops] at hstale
    exact absurd hstale (by simp)
  · rw [if_neg hstops] at hstale ⊢
    cases hstop with
    | failed hfailed => exact hfailed
    | unfit hunfit =>
        cases hunfit with
        | missing => exact absurd hstale (by simp [Fault.alone])
        | ragged => exact absurd hstale (by simp [Fault.alone])

/-- A record that follows the plan for some tables keeps the protocol. -/
theorem Follows.keepsProtocol {id : Option String} {tables : List AnchoredTable}
    {readings : List (Snapshot × Snapshot)} {log : List Exchange}
    {result : Except Failure TableReport}
    (hplan : Follows id (BreaksOffAt id 0 tables) (AnchoredTable.plan tables readings) log
      (failureOf? result)) : KeepsProtocol id tables readings log result where
  carries_prefix := hplan.exists_prefix
  stops_at_failure := hplan.eq_nil_of_failed
  reads_before_batch := (grounded_plan (fun _ hmem => hmem) readings).supported hplan
  carries_all := by
    rintro report rfl
    exact hplan.carries_all
  fails_at_last := by
    rintro failure rfl
    exact hplan.exists_last
  stale_passed_on := by
    rintro failure layout current rfl hstale
    obtain ⟨earlier, exchange, hlog, hbreaks⟩ := hplan.exists_last
    exact ⟨earlier, exchange, hlog, hbreaks.failure?_of_stale hstale⟩

/-- Whatever the client does, the calls of a run that inserts tables keep the protocol, the
last table first. The calls are those of the client itself: the run without a record has
the same result and leaves the client in the same state. -/
theorem insertTables_keeps_protocol (client : Client σ) (id : Option String)
    {tables : List TableDescriptor}
    (htables : ∀ table ∈ tables, ∃ anchor, table.anchor = some anchor) (generation : Int)
    (state : σ) :
    ∃ ordered readings result after,
      (ordered.map AnchoredTable.table).Perm tables ∧
      (∀ table ∈ ordered, table.table.anchor = some table.anchor) ∧
      (ordered.Pairwise fun first second => second.anchor ≤ first.anchor) ∧
      readings.length = ordered.length ∧
      (Tracked.insertTables client.recorded id tables).run.run
        { generation, state := { state } } = (result, after) ∧
      (Tracked.insertTables client id tables).run.run { generation, state } =
        (result, after.bare) ∧
      KeepsProtocol id ordered readings after.state.log result := by
  rcases hrun : (Tracked.insertTables client.recorded id tables).run.run
    { generation, state := { state } } with ⟨result, after⟩
  have hbare := Tracked.mirrors_insertTables client id tables { generation, state := { state } }
  rw [hrun] at hbare
  obtain ⟨ordered, readings, added, hadded, hinserts⟩ := Tracked.insertTables_inserts htables hrun
  rw [List.nil_append] at hadded
  refine ⟨ordered, readings, result, after, hinserts.perm, hinserts.anchor_eq, hinserts.descends,
    hinserts.length_eq, rfl, hbare, ?_⟩
  rw [hadded]
  exact hinserts.follows.keepsProtocol

/-- A table with a header, and after it one without text. -/
def headedTables : List TableDescriptor :=
  [{ rows := 1, columns := 1, cells := [[['H']]], anchor := some 1 },
    { rows := 1, columns := 2, cells := [[[], []]], anchor := some 2 }]

/-- The table without text takes two calls, the one with a header five. -/
theorem insertTables_calls_headedTables :
    (∀ table ∈ headedTables, ∃ anchor, table.anchor = some anchor) ∧
      ∃ ordered readings after,
        (ordered.map AnchoredTable.table).Perm headedTables ∧
        (ordered.Pairwise fun first second => second.anchor ≤ first.anchor) ∧
        Yields (Tracked.insertTables MemoryDocument.client.recorded (some "d") headedTables)
          { state := { state := framedDocument } } { inserted := 2, filled := 1, bolded := 1 }
          after ∧
        after.state.log.length = 7 ∧
        KeepsProtocol (some "d") ordered readings after.state.log
          (.ok { inserted := 2, filled := 1, bolded := 1 }) := by
  have hanchors : ∀ table ∈ headedTables, ∃ anchor, table.anchor = some anchor := by
    intro table hmem
    simp only [headedTables, List.mem_cons, List.not_mem_nil, or_false] at hmem
    rcases hmem with rfl | rfl
    · exact ⟨1, rfl⟩
    · exact ⟨2, rfl⟩
  refine ⟨hanchors, ?_⟩
  obtain ⟨ordered, readings, result, after, hperm, _, horder, _, hrun, _, hprotocol⟩ :=
    insertTables_keeps_protocol MemoryDocument.client (some "d") hanchors 0 framedDocument
  have hascending : (headedTables.map TableDescriptor.anchored).Pairwise fun first second =>
      first.anchor < second.anchor := by decide
  have hlast : (result, after) = (Tracked.insertFrom MemoryDocument.client.recorded (some "d") 0
      (headedTables.map TableDescriptor.anchored).reverse).run.run
        { state := { state := framedDocument } } := by
    rw [← hrun, Tracked.insertTables, (yields_ofExcept (ofTables_eq hanchors)).run_bind,
      lastFirst_eq_reverse (List.Perm.refl _) hascending]
  have hresult : result = .ok { inserted := 2, filled := 1, bolded := 1 } := by
    rw [(Prod.mk.inj hlast).1]
    decide +kernel
  have hlength : after.state.log.length = 7 := by
    rw [(Prod.mk.inj hlast).2]
    decide +kernel
  subst hresult
  exact ⟨ordered, readings, after, hperm, horder, hrun, hlength, hprotocol⟩

end DocPress
