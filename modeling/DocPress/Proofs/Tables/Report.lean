import DocPress.Proofs.Tables.CellOrder
import DocPress.Proofs.Tables.Protocol

/-!
# What the report of an insertion counts

Tables are inserted through any client. As long as its calls succeed and its documents show
a table where one was inserted, all tables are inserted, and each text of a cell is either
filled in or counted as skipped, however many rows and columns the documents show. Skipped
are the texts of the cells that the document does not have when it is read right after the
insertion of their table.
-/

namespace DocPress

open TableDescriptor

variable {σ α : Type}

/-! ## Documents that show the tables -/

/-- The anchor of the table that a call inserts. -/
def Exchange.insertsAt? : Exchange → Option Int
  | .mutate _ [.insertTable anchor _ _] _ => some anchor
  | _ => none

/-- Whether a document that was read shows a table at an anchor or later. -/
def Exchange.showsTable (anchor : Option Int) : Exchange → Bool
  | .query _ (.ok snapshot) => anchor.all fun anchor => (snapshot.tableFrom? anchor).isSome
  | _ => true

/-- Whether all documents of a record show a table at the anchor of the table inserted last
before they were read, or later. -/
def showsTables (anchor : Option Int) : List Exchange → Bool
  | [] => true
  | exchange :: rest =>
      exchange.showsTable anchor && showsTables (exchange.insertsAt?.or anchor) rest

/-- Where no more tables are inserted, the documents show the last one. -/
theorem showsTables_append {anchor : Option Int} {log : List Exchange}
    (hnone : ∀ exchange ∈ log, exchange.insertsAt? = none) (later : List Exchange) :
    showsTables anchor (log ++ later) =
      (log.all (Exchange.showsTable anchor) && showsTables anchor later) := by
  induction log with
  | nil => rfl
  | cons exchange rest ih =>
      obtain ⟨hfirst, hrest⟩ := List.forall_mem_cons.mp hnone
      rw [List.cons_append, showsTables, hfirst, Option.none_or, ih hrest, List.all_cons,
        Bool.and_assoc]

/-! ## Accounts -/

namespace AnchoredTable

/-- The number of cells with text that a document does not show when it is read for a
table. -/
def countAbsent (table : AnchoredTable) (snapshot : Snapshot) : Nat :=
  match snapshot.tableFrom? table.anchor with
  | some layout => layout.countAbsent table.table.cells
  | none => 0

end AnchoredTable

/-- Whether a report accounts for tables, each with the two documents that were read for
it. -/
structure TableReport.Accounts (report : TableReport) (tables : List AnchoredTable)
    (readings : List (Snapshot × Snapshot)) : Prop where
  inserted_eq : report.inserted = tables.length
  filled_add_skipped_eq : report.filled + report.skipped =
    (tables.map fun table => countTexts table.table.cells.flatten).sum
  skipped_eq : report.skipped =
    ((tables.zip readings).map fun (table, first, _) => table.countAbsent first).sum
  bolded_le : report.bolded ≤ (tables.map fun table => countTexts table.table.headerCells).sum
  shown : ∀ entry ∈ tables.zip readings, (entry.2.1.tableFrom? entry.1.anchor).isSome

theorem TableReport.accounts_nil : Accounts {} [] [] :=
  ⟨rfl, rfl, rfl, Nat.le_refl _, fun _ hmem => absurd hmem List.not_mem_nil⟩

/-- The report of one table and that of the others add up. -/
theorem TableReport.Accounts.add {report others : TableReport} {table : AnchoredTable}
    {reading : Snapshot × Snapshot} {rest : List AnchoredTable}
    {readings : List (Snapshot × Snapshot)} (hfirst : report.Accounts [table] [reading])
    (hothers : others.Accounts rest readings) :
    (report.add others).Accounts (table :: rest) (reading :: readings) where
  inserted_eq := by
    have hinserted := hfirst.inserted_eq
    have hrest := hothers.inserted_eq
    simp only [TableReport.add, List.length_cons, List.length_nil] at *
    omega
  filled_add_skipped_eq := by
    have hfilled := hfirst.filled_add_skipped_eq
    have hrest := hothers.filled_add_skipped_eq
    simp only [TableReport.add, List.map_cons, List.map_nil, List.sum_cons, List.sum_nil] at *
    omega
  skipped_eq := by
    have hskipped := hfirst.skipped_eq
    have hrest := hothers.skipped_eq
    simp only [TableReport.add, List.zip_cons_cons, List.zip_nil_left, List.map_cons,
      List.map_nil, List.sum_cons, List.sum_nil] at *
    omega
  bolded_le := by
    have hbolded := hfirst.bolded_le
    have hrest := hothers.bolded_le
    simp only [TableReport.add, List.map_cons, List.map_nil, List.sum_cons, List.sum_nil] at *
    omega
  shown := by
    rw [List.zip_cons_cons]
    exact List.forall_mem_cons.mpr ⟨hfirst.shown _ List.mem_cons_self, hothers.shown⟩

/-- A table that is found is accounted for by the layout at which it is filled. -/
theorem AnchoredTable.accounts_of_tableFrom? {first : Snapshot} {layout : TableLayout}
    (table : AnchoredTable) (hlayout : first.tableFrom? table.anchor = some layout) {bolded : Nat}
    (second : Snapshot) (hbolded : bolded ≤ countTexts table.table.headerCells) :
    TableReport.Accounts
      { inserted := 1, filled := (layout.insertions table.table.cells).length
        skipped := layout.countAbsent table.table.cells, bolded }
      [table] [(first, second)] where
  inserted_eq := rfl
  filled_add_skipped_eq := by
    simp only [List.map_cons, List.map_nil, List.sum_cons, List.sum_nil, Nat.add_zero]
    exact layout.length_insertions_add_countAbsent table.table.cells
  skipped_eq := by
    simp [AnchoredTable.countAbsent, hlayout]
  bolded_le := by simpa using hbolded
  shown := by simp [hlayout]

/-! ## One table -/

/-- Only cells with text are made bold, and each of them once. -/
theorem length_boldRequests_le (layout : TableLayout) (table : TableDescriptor) :
    (layout.boldRequests table).length ≤ countTexts table.headerCells := by
  have hcount : countTexts table.headerCells =
      table.headerCells.zipIdx.countP fun cell => !cell.1.isEmpty := by
    rw [countTexts]
    conv_lhs => rw [← List.zipIdx_map_fst 0 table.headerCells, List.countP_map]
    rfl
  rw [TableLayout.boldRequests, List.length_filterMap_eq_countP, hcount]
  refine List.countP_mono_left fun cell _ hsome => ?_
  obtain ⟨text, column⟩ := cell
  cases text with
  | nil => exact absurd hsome (by simp)
  | cons c text => rfl

theorem foldl_addCell_skipped (layout : TableLayout) (cells : List (Nat × Nat × Text))
    (batch : CellBatch) :
    (cells.foldl layout.addCell batch).skipped =
      batch.skipped + cells.countP fun cell => (layout.cell? cell.1 cell.2.1).isNone := by
  induction cells generalizing batch with
  | nil => rfl
  | cons cell rest ih =>
      rw [List.foldl_cons, ih, TableLayout.addCell]
      cases hcell : layout.cell? cell.1 cell.2.1 with
      | none =>
          rw [List.countP_cons_of_pos (by simp [hcell])]
          simp only
          omega
      | some position => rw [List.countP_cons_of_neg (by simp [hcell])]

/-- The batch of a grid says how many of its texts have no cell. -/
theorem exists_cellBatch_skipped (layout : TableLayout) {table : TableDescriptor}
    (hgrid : table.IsGrid) :
    ∃ batch, layout.cellBatch table = .ok batch ∧
      batch.requests = layout.insertions table.cells ∧
      batch.skipped = layout.countAbsent table.cells := by
  obtain ⟨batch, hbatch, hrequests⟩ := exists_cellBatch layout hgrid.claimed?_eq
  refine ⟨batch, hbatch, hrequests, ?_⟩
  rw [TableLayout.cellBatch, hgrid.claimed?_eq] at hbatch
  rw [← Except.ok.inj hbatch, foldl_addCell_skipped, List.countP_reverse, Nat.zero_add]
  rfl

namespace Tracked

variable {client : Client σ} {id : Option String} {table : AnchoredTable}
  {before after : Tracked (Recorded σ)}

/-- A layout that is found is that of a document just read, and is current. -/
theorem exists_of_yields_locate {anchor : Int} {layout : TableLayout}
    (hrun : Yields (locate client.recorded id anchor) before layout after) :
    ∃ snapshot found, after.state.log = before.state.log ++ [.query id (.ok snapshot)] ∧
      snapshot.tableFrom? anchor = some found ∧ layout = found.at after.generation := by
  rcases run_locate_cases hrun with
    ⟨_, hresult, _⟩ | ⟨snapshot, hlog, ⟨_, hresult⟩ | ⟨found, htable, hresult⟩⟩
  · exact absurd hresult (by simp)
  · exact absurd hresult (by simp)
  · exact ⟨snapshot, found, hlog, htable, Except.ok.inj hresult⟩

/-- No more cells are reported bold than the header has texts. -/
theorem bolded_le {bolded : Nat}
    (hrun : Yields (boldHeader client.recorded id table) before bolded after) :
    bolded ≤ countTexts table.table.headerCells := by
  unfold boldHeader at hrun
  split at hrun
  next =>
    obtain ⟨hbolded, _⟩ := Prod.mk.inj hrun
    rw [← Except.ok.inj hbolded]
    exact Nat.zero_le _
  next =>
    obtain ⟨layout, between, hlocate, hrun⟩ := hrun.exists_of_bind
    obtain ⟨snapshot, found, _, _, rfl⟩ := exists_of_yields_locate hlocate
    -- Nothing was sent since the layout was read.
    have hfresh : (found.at between.generation).generation = between.generation := rfl
    unfold Yields at hrun
    rw [(yields_boldRequests hfresh).run_bind, boldRequests_at] at hrun
    split at hrun
    next =>
      obtain ⟨hbolded, _⟩ := Prod.mk.inj hrun
      rw [← Except.ok.inj hbolded]
      exact Nat.zero_le _
    next =>
      obtain ⟨reply, sent, _, hrun⟩ := Yields.exists_of_bind hrun
      obtain ⟨hbolded, _⟩ := Prod.mk.inj hrun
      rw [← Except.ok.inj hbolded]
      exact length_boldRequests_le found table.table

/-- The cells that a layout has are filled, and then the header is made bold. -/
theorem fillSteps_of_yields {first : Snapshot} {layout : TableLayout} {rows : List (List Text)}
    {skipped : Nat} {report : TableReport} (hlayout : first.tableFrom? table.anchor = some layout)
    (hrows : table.table.claimed? = some rows)
    (hrun : Yields (if (layout.insertions rows).isEmpty then pure { inserted := 1, skipped }
      else do
        let _ ← mutate client.recorded id (layout.insertions rows)
        let bolded ← boldHeader client.recorded id table
        return { inserted := 1, filled := (layout.insertions rows).length, skipped, bolded })
      before report after) :
    ∃ second added bolded, after.state.log = before.state.log ++ added ∧
      List.Forall₂ (Step.CarriedBy id) (table.fillSteps first second) added ∧
      bolded ≤ countTexts table.table.headerCells ∧
      report = { inserted := 1, filled := (layout.insertions rows).length, skipped, bolded } := by
  simp only [AnchoredTable.fillSteps_eq hlayout hrows]
  by_cases hnil : layout.insertions rows = []
  · rw [hnil] at hrun
    obtain ⟨hreport, rfl⟩ := Prod.mk.inj hrun
    simp only [if_pos hnil]
    refine ⟨default, [], 0, (List.append_nil _).symm, .nil, Nat.zero_le _, ?_⟩
    rw [hnil]
    exact (Except.ok.inj hreport).symm
  · rw [if_neg (by simpa using hnil)] at hrun
    obtain ⟨reply, filled, hfill, hrun⟩ := hrun.exists_of_bind
    obtain ⟨bolded, between, hbold, hrun⟩ := hrun.exists_of_bind
    obtain ⟨hreport, rfl⟩ := Prod.mk.inj hrun
    obtain ⟨second, added, hadded, hfollows⟩ := boldHeader_proceeds hbold
    simp only [if_neg hnil]
    refine ⟨second, .mutate id (layout.insertions rows) (.ok reply) :: added, bolded, ?_,
      .cons (.edit _ _) hfollows.carries_all, bolded_le hbold, (Except.ok.inj hreport).symm⟩
    rw [hadded, log_of_run_mutate hfill, List.append_assoc, List.singleton_append]

/-- A table that is inserted is accounted for by the document that is read first. -/
theorem insertTable_accounts (hgrid : table.table.IsGrid) {report : TableReport}
    (hrun : Yields (insertTable client.recorded id table) before report after) :
    ∃ reading added, after.state.log = before.state.log ++ added ∧
      List.Forall₂ (Step.CarriedBy id) (table.steps reading.1 reading.2) added ∧
      report.Accounts [table] [reading] := by
  obtain ⟨reply, inserted, hinsert, hrun⟩ := hrun.exists_of_bind
  obtain ⟨layout, between, hlocate, hrun⟩ := hrun.exists_of_bind
  obtain ⟨first, found, hread, hfound, rfl⟩ := exists_of_yields_locate hlocate
  obtain ⟨batch, hbatch, hrequests, hskipped⟩ := exists_cellBatch_skipped found hgrid
  have hfresh : (found.at between.generation).generation = between.generation := rfl
  unfold Yields at hrun
  rw [(yields_cellBatch hfresh hbatch).run_bind, hrequests, hskipped] at hrun
  obtain ⟨second, added, bolded, hadded, hfill, hbolded, rfl⟩ :=
    fillSteps_of_yields hfound hgrid.claimed?_eq hrun
  refine ⟨(first, second),
    .mutate id [table.insertion] (.ok reply) :: .query id (.ok first) :: added, ?_,
    .cons (.edit _ _) (.cons (.read first) hfill),
    table.accounts_of_tableFrom? hfound second hbolded⟩
  rw [hadded, hread, log_of_run_mutate hinsert, List.append_assoc, List.append_assoc]
  rfl

end Tracked

/-! ## Records that break nothing off -/

section Records

variable {id : Option String} {table : AnchoredTable} {first second : Snapshot}
  {breaksOff : Exchange → Failure → Prop} {log later : List Exchange} {cause : Option Failure}

/-- After a table was inserted, every other batch for it is drawn from a document. -/
theorem exists_drawnFrom {requests : List Request}
    (hstep : .edit requests ∈ table.fillSteps first second) :
    ∃ snapshot, table.DrawnFrom snapshot requests := by
  unfold AnchoredTable.fillSteps at hstep
  split at hstep
  next layout rows hlayout hrows =>
    split at hstep
    next =>
      rcases List.mem_cons.mp hstep with hfill | hheader
      · obtain rfl := Step.edit.inj hfill
        exact ⟨first, .filling hlayout hrows⟩
      · -- The other batch is that of the header, if there is one.
        unfold AnchoredTable.headerSteps AnchoredTable.boldSteps at hheader
        split at hheader
        next =>
          rcases List.mem_cons.mp hheader with hread | hbold
          · exact absurd hread (by simp)
          · split at hbold
            next => exact absurd hbold List.not_mem_nil
            next found hfound =>
              split at hbold
              next => exact absurd hbold List.not_mem_nil
              next =>
                obtain rfl := Step.edit.inj (List.mem_singleton.mp hbold)
                exact ⟨second, .bold hfound⟩
        next => exact absurd hheader List.not_mem_nil
    next => exact absurd hstep List.not_mem_nil
  next => exact absurd hstep List.not_mem_nil

/-- A batch that takes its positions from a document inserts no table. -/
theorem AnchoredTable.DrawnFrom.ne_insertTable {snapshot : Snapshot} {requests : List Request}
    (hdrawn : table.DrawnFrom snapshot requests) {request : Request} (hmem : request ∈ requests)
    (anchor rows columns : Int) : request ≠ .insertTable anchor rows columns := by
  rintro rfl
  cases hdrawn with
  | @filling layout texts =>
      obtain ⟨⟨row, column, text⟩, _, hcell⟩ := List.mem_filterMap.mp hmem
      obtain ⟨position, _, hrequest⟩ := Option.map_eq_some_iff.mp hcell
      unfold Request.insertTextAt at hrequest
      split at hrequest <;> exact absurd hrequest (by simp)
  | @bold layout =>
      obtain ⟨⟨text, column⟩, _, hcell⟩ := List.mem_filterMap.mp hmem
      dsimp only at hcell
      split at hcell
      next => exact absurd hcell (by simp)
      next =>
        obtain ⟨position, _, hrequest⟩ := Option.bind_eq_some_iff.mp hcell
        obtain ⟨start, _, hrequest⟩ := Option.bind_eq_some_iff.mp hrequest
        obtain ⟨stop, _, hrequest⟩ := Option.bind_eq_some_iff.mp hrequest
        split at hrequest <;>
          exact absurd hrequest (by simp [TableLayout.boldRequest, Request.styleText])

/-- Once a table is there, none of its steps inserts another one. -/
theorem insertsAt?_of_mem_fillSteps {step : Step} (hstep : step ∈ table.fillSteps first second)
    {exchange : Exchange} (hcarried : step.CarriedBy id exchange) : exchange.insertsAt? = none := by
  cases hcarried with
  | read | failedRead => rfl
  | edit requests outcome =>
      obtain ⟨snapshot, hdrawn⟩ := exists_drawnFrom hstep
      unfold Exchange.insertsAt?
      split
      next hbatch =>
        obtain ⟨_, rfl, _⟩ := Exchange.mutate.inj hbatch
        exact absurd rfl (hdrawn.ne_insertTable List.mem_cons_self _ _ _)
      next => rfl

/-- Every exchange of a record carries out some step of the plan. -/
theorem Follows.exists_step {plan : List Step} (hfollows : Follows id breaksOff plan log cause) :
    ∀ exchange ∈ log, ∃ step ∈ plan, step.CarriedBy id exchange := by
  induction hfollows with
  | nil => exact fun _ hmem => absurd hmem List.not_mem_nil
  | cons hcarried _ _ ih =>
      refine List.forall_mem_cons.mpr ⟨⟨_, List.mem_cons_self, hcarried⟩, fun exchange hmem => ?_⟩
      obtain ⟨step, hstep, hcarried⟩ := ih exchange hmem
      exact ⟨step, List.mem_cons_of_mem _ hstep, hcarried⟩
  | stop hcarried => exact List.forall_mem_singleton.mpr ⟨_, List.mem_cons_self, hcarried⟩

/-- The record of a table begins with its insertion, and no other table is inserted in it. -/
theorem Follows.exists_insertion
    (hfollows : Follows id breaksOff (table.steps first second) log cause) :
    ∃ outcome rest, log = .mutate id [table.insertion] outcome :: rest ∧
      ∀ exchange ∈ rest, exchange.insertsAt? = none := by
  obtain ⟨exchange, rest, rfl⟩ := hfollows.exists_cons
  obtain ⟨hinsertion, hlater⟩ := hfollows.of_cons
  cases hinsertion with
  | edit requests outcome =>
      refine ⟨outcome, rest, rfl, fun exchange hmem => ?_⟩
      obtain ⟨-, hrest⟩ := hlater (List.ne_nil_of_mem hmem)
      obtain ⟨step, hstep, hcarried⟩ := hrest.exists_step exchange hmem
      rcases List.mem_cons.mp hstep with rfl | hstep
      · cases hcarried <;> rfl
      · exact insertsAt?_of_mem_fillSteps hstep hcarried

/-- All documents that are read for a table show one at its anchor or later. -/
theorem Follows.showsTable
    (hfollows : Follows id breaksOff (table.steps first second) log cause) {anchor : Option Int}
    (hshows : showsTables anchor (log ++ later)) :
    (∀ exchange ∈ log, exchange.showsTable (some table.anchor)) ∧
      showsTables (some table.anchor) later := by
  obtain ⟨outcome, rest, rfl, hnone⟩ := hfollows.exists_insertion
  rw [List.cons_append, showsTables, Bool.and_eq_true] at hshows
  have hrest : showsTables (some table.anchor) (rest ++ later) = true := hshows.2
  rw [showsTables_append hnone, Bool.and_eq_true, List.all_eq_true] at hrest
  exact ⟨List.forall_mem_cons.mpr ⟨rfl, hrest.1⟩, hrest.2⟩

/-- A grid breaks off no run in which all calls succeed and all documents show a table. -/
theorem Follows.cause_eq_none {plan : List Step}
    (hfollows : Follows id (table.BreaksOff id) plan log cause) (hgrid : table.table.IsGrid)
    (hsucceeds : ∀ exchange ∈ log, exchange.failure? = none)
    (hshows : ∀ exchange ∈ log, exchange.showsTable (some table.anchor)) : cause = none := by
  cases cause with
  | none => rfl
  | some failure =>
      obtain ⟨earlier, exchange, rfl, hbreaks⟩ := hfollows.exists_last
      have hmem : exchange ∈ earlier ++ [exchange] := by simp
      cases hbreaks with
      | failed hfailed =>
          rw [hsucceeds exchange hmem] at hfailed
          exact absurd hfailed (by simp)
      | unfit hunfit =>
          cases hunfit with
          | missing hmissing =>
              have hshown := hshows _ hmem
              simp [Exchange.showsTable, hmissing] at hshown
          | ragged hragged =>
              rw [hgrid.claimed?_eq] at hragged
              exact absurd hragged (by simp)

end Records

/-! ## All tables -/

namespace Tracked

variable {client : Client σ} {id : Option String} {before after : Tracked (Recorded σ)}

/-- All tables are inserted, and the report accounts for them. -/
theorem insertFrom_accounts {tables : List AnchoredTable}
    (hgrid : ∀ table ∈ tables, table.table.IsGrid) {completed : Nat}
    {result : Except Failure TableReport}
    (hrun : (insertFrom client.recorded id completed tables).run.run before = (result, after))
    {added : List Exchange} (hadded : after.state.log = before.state.log ++ added)
    (hsucceeds : ∀ exchange ∈ added, exchange.failure? = none) {anchor : Option Int}
    (hshows : showsTables anchor added) :
    ∃ report readings, result = .ok report ∧ readings.length = tables.length ∧
      List.Forall₂ (Step.CarriedBy id) (AnchoredTable.plan tables readings) added ∧
      report.Accounts tables readings := by
  induction tables generalizing completed before result added anchor with
  | nil =>
      obtain ⟨rfl, rfl⟩ := Prod.mk.inj hrun
      obtain rfl := List.append_right_eq_self.mp hadded.symm
      exact ⟨{}, [], rfl, rfl, .nil, TableReport.accounts_nil⟩
  | cons table rest ih =>
      obtain ⟨htable, hrest⟩ := List.forall_mem_cons.mp hgrid
      rcases hinsert : (insertTable client.recorded id table).run.run before with ⟨outcome, between⟩
      obtain ⟨_, first, hfirst, hfollows⟩ := insertTable_proceeds hinsert
      cases outcome with
      -- A table can fail only where a call failed or a document showed none.
      | error failure =>
          have hfailed : (tryCatch (insertTable client.recorded id table) fun failure =>
              Action.fail (table.failure completed (rest.length + 1) failure)).run.run before =
                (.error (table.failure completed (rest.length + 1) failure), between) := by
            rw [run_tryCatch, hinsert]
            rfl
          rw [insertFrom, run_bind_of_failed hfailed] at hrun
          obtain ⟨rfl, rfl⟩ := Prod.mk.inj hrun
          obtain rfl : added = first := List.append_cancel_left (hadded.symm.trans hfirst)
          rw [← List.append_nil added] at hshows
          have hnone := hfollows.cause_eq_none htable hsucceeds (hfollows.showsTable hshows).1
          exact absurd hnone (by simp [failureOf?])
      | ok report =>
          rcases hothers : (insertFrom client.recorded id (completed + 1) rest).run.run between with
            ⟨outcome, state⟩
          rw [insertFrom, (Yields.tryCatch hinsert _).run_bind,
            run_bind_pure hothers report.add] at hrun
          obtain ⟨rfl, rfl⟩ := Prod.mk.inj hrun
          obtain ⟨_, _, second, hsecond, _⟩ := insertFrom_proceeds hothers
          -- The record consists of the calls for this table and of those for the others.
          obtain rfl : added = first ++ second := by
            rw [hsecond, hfirst, List.append_assoc] at hadded
            exact (List.append_cancel_left hadded).symm
          obtain ⟨hfirstGood, hsecondGood⟩ := List.forall_mem_append.mp hsucceeds
          obtain ⟨others, readings, rfl, hlength, hcarries, haccounts⟩ :=
            ih hrest hothers hsecond hsecondGood (hfollows.showsTable hshows).2
          obtain ⟨reading, made, hmade, hsteps, hreport⟩ := insertTable_accounts htable hinsert
          obtain rfl : made = first := List.append_cancel_left (hmade.symm.trans hfirst)
          exact ⟨_, reading :: readings, rfl, congrArg (· + 1) hlength,
            List.rel_append hsteps hcarries, hreport.add haccounts⟩

end Tracked

/-- Whether the cells of a table are filled as the document allows that is read first: at the
layout found there, in one batch, unless there is nothing to fill. The batch has one insertion
for each cell with text that is there, and goes backwards if the cells follow each other. -/
def AnchoredTable.IsFilled (table : AnchoredTable) (first second : Snapshot) : Prop :=
  ∃ layout batch, first.tableFrom? table.anchor = some layout ∧
    table.fillSteps first second =
      (if batch = [] then [] else .edit batch :: table.headerSteps second) ∧
    layout.FillsOnce table.table.cells batch ∧
    (layout.Ascends → batch.Pairwise Request.GoesBackTo)

/-- A grid is filled in every document that shows a table for it. -/
theorem AnchoredTable.isFilled {table : AnchoredTable} {first : Snapshot}
    (hgrid : table.table.IsGrid) (hshown : (first.tableFrom? table.anchor).isSome)
    (second : Snapshot) : table.IsFilled first second := by
  obtain ⟨layout, hlayout⟩ := Option.isSome_iff_exists.mp hshown
  exact ⟨layout, _, hlayout, AnchoredTable.fillSteps_eq hlayout hgrid.claimed?_eq second,
    layout.insertions_fillsOnce _, fun hascends => TableLayout.insertions_goBack hascends _⟩

/-- Tables that were compiled are all inserted, through any client, as long as its calls
succeed and its documents show a table where one was inserted. The report counts every table,
and every text of a cell as filled or as skipped; skipped are those that the document read
right after the insertion does not have. -/
theorem insertTables_accounts_for_texts {client : Client σ} {id : Option String}
    {tables : List TableDescriptor}
    (htables : ∀ table ∈ tables, ∃ blocks start, table ∈ (compile blocks start).tables)
    {generation : Int} {state : σ} {result : Except Failure TableReport}
    {after : Tracked (Recorded σ)}
    (hrun : (Tracked.insertTables client.recorded id tables).run.run
      { generation, state := { state } } = (result, after))
    (hsucceeds : ∀ exchange ∈ after.state.log, exchange.failure? = none)
    (hshows : showsTables none after.state.log) :
    ∃ report ordered readings, result = .ok report ∧
      (Tracked.insertTables client id tables).run.run { generation, state } =
        (.ok report, after.bare) ∧
      (ordered.map AnchoredTable.table).Perm tables ∧
      (∀ table ∈ ordered, table.table.anchor = some table.anchor) ∧
      (ordered.Pairwise fun first second => second.anchor ≤ first.anchor) ∧
      readings.length = ordered.length ∧
      List.Forall₂ (Step.CarriedBy id) (AnchoredTable.plan ordered readings) after.state.log ∧
      report.inserted = tables.length ∧
      report.filled + report.skipped =
        (tables.map fun table => countTexts table.cells.flatten).sum ∧
      report.skipped =
        ((ordered.zip readings).map fun (table, first, _) => table.countAbsent first).sum ∧
      report.bolded ≤ (tables.map fun table => countTexts table.headerCells).sum ∧
      ∀ table first second, (table, first, second) ∈ ordered.zip readings →
        table.IsFilled first second := by
  have hanchors : ∀ table ∈ tables, ∃ anchor, table.anchor = some anchor := by
    intro table hmem
    obtain ⟨_, _, hcompiled⟩ := htables table hmem
    obtain ⟨anchor, hanchor, _⟩ := compile_tables_anchored hcompiled
    exact ⟨anchor, hanchor⟩
  have hperm := map_table_lastFirst_perm tables
  have hgrid : ∀ placed ∈ AnchoredTable.lastFirst (tables.map TableDescriptor.anchored),
      placed.table.IsGrid := by
    intro placed hmem
    obtain ⟨_, _, hcompiled⟩ := htables _ (hperm.mem_iff.mp (List.mem_map_of_mem hmem))
    obtain ⟨_, _, _, _, hgrid⟩ := compile_tables_anchored hcompiled
    exact hgrid
  have hbare := Tracked.mirrors_insertTables client id tables { generation, state := { state } }
  rw [hrun] at hbare
  rw [Tracked.insertTables, (yields_ofExcept (ofTables_eq hanchors)).run_bind] at hrun
  obtain ⟨report, readings, rfl, hlength, hcarries, haccounts⟩ :=
    Tracked.insertFrom_accounts hgrid hrun (List.nil_append _).symm hsucceeds hshows
  have htexts := (hperm.map fun table => countTexts table.cells.flatten).sum_nat
  have hheaders := (hperm.map fun table => countTexts table.headerCells).sum_nat
  rw [List.map_map] at htexts hheaders
  refine ⟨report, _, readings, rfl, hbare, hperm, anchor_eq_of_mem_lastFirst hanchors,
    lastFirst_descends _, hlength, hcarries, ?_, haccounts.filled_add_skipped_eq.trans htexts,
    haccounts.skipped_eq, Nat.le_trans haccounts.bolded_le (Nat.le_of_eq hheaders), ?_⟩
  · rw [haccounts.inserted_eq, ← hperm.length_eq, List.length_map]
  · intro table first second hmem
    exact AnchoredTable.isFilled (hgrid table (List.of_mem_zip hmem).1)
      (haccounts.shown _ hmem) second

/-- A document that shows only the first column of its tables. -/
def narrowDocument : MemoryDocument :=
  { id := some "d"
    title := none
    elements := [.paragraph ['\n'], .paragraph ['m', '\n'], .paragraph ['\n'], .paragraph ['\n']]
    visibleColumns := some 1 }

/-- One of the three texts has no cell in a document that hides all columns but the first. -/
theorem insertTables_accounts_narrowDocument :
    (∀ table ∈ (compile tableBlocks).tables,
        ∃ blocks start, table ∈ (compile blocks start).tables) ∧
      ∃ report after,
        (Tracked.insertTables MemoryDocument.client.recorded (some "d")
          (compile tableBlocks).tables).run.run { state := { state := narrowDocument } } =
            (.ok report, after) ∧
        (∀ exchange ∈ after.state.log, exchange.failure? = none) ∧
        showsTables none after.state.log ∧
        report.inserted = 2 ∧ report.filled + report.skipped = 3 ∧ report.bolded ≤ 2 := by
  have htables : ∀ table ∈ (compile tableBlocks).tables,
      ∃ blocks start, table ∈ (compile blocks start).tables :=
    fun table hmem => ⟨tableBlocks, 1, hmem⟩
  rcases hrun : (Tracked.insertTables MemoryDocument.client.recorded (some "d")
    (compile tableBlocks).tables).run.run { state := { state := narrowDocument } } with
      ⟨result, after⟩
  -- The order of the tables is known, so that they need not be sorted.
  have hanchors : ∀ table ∈ (compile tableBlocks).tables, ∃ anchor, table.anchor = some anchor :=
    fun table hmem => (compile_tables_anchored hmem).imp fun _ hanchor => hanchor.1
  have hlast : (result, after) = (Tracked.insertFrom MemoryDocument.client.recorded (some "d") 0
      ((compile tableBlocks).tables.map TableDescriptor.anchored).reverse).run.run
        { state := { state := narrowDocument } } := by
    rw [← hrun, Tracked.insertTables, (yields_ofExcept (ofTables_eq hanchors)).run_bind,
      lastFirst_eq_reverse (List.Perm.refl _)
        (List.pairwise_map.mpr (compile_tables_ascending 1 tableBlocks))]
  have hsucceeds : ∀ exchange ∈ after.state.log, exchange.failure? = none := by
    rw [(Prod.mk.inj hlast).2]
    decide +kernel
  have hshows : showsTables none after.state.log := by
    rw [(Prod.mk.inj hlast).2]
    decide +kernel
  obtain ⟨report, _, _, rfl, _, _, _, _, _, _, hinserted, hfilled, _, hbolded, _⟩ :=
    insertTables_accounts_for_texts htables hrun hsucceeds hshows
  refine ⟨htables, report, after, rfl, hsucceeds, hshows, ?_, ?_, ?_⟩
  · rw [hinserted]
    decide +kernel
  · rw [hfilled]
    decide +kernel
  · refine Nat.le_trans hbolded ?_
    decide +kernel

end DocPress
