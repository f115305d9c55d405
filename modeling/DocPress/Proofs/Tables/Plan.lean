import Mathlib.Data.List.Forall2
import DocPress.Proofs.Client.Records
import DocPress.Tables.Insertion

/-!
# The plan for inserting tables

For each table the steps are: insert it empty, read the document, fill the cells that the
document has, read the document again, make the header bold. A step for which there is
nothing to do is left out. The record of a run may end before the plan does, namely at
the exchange that breaks off the run. Every batch of the plan inserts a table empty or
comes right after a reading from which it takes its positions, and so it is with every
record that follows the plan.
-/

namespace DocPress

/-! ## The plan -/

/-- A step of the plan. -/
inductive Step
  /-- Apply a batch. -/
  | edit (requests : List Request)
  /-- Read the document, which is the one given. -/
  | read (snapshot : Snapshot)

/-- Whether an exchange carries out a step on a document. A reading that succeeds gives
the document of the step. -/
inductive Step.CarriedBy (id : Option String) : Step → Exchange → Prop
  | edit (requests : List Request) (outcome : Except Failure Json) :
      CarriedBy id (.edit requests) (.mutate id requests outcome)
  | read (snapshot : Snapshot) : CarriedBy id (.read snapshot) (.query id (.ok snapshot))
  | failedRead (snapshot : Snapshot) (failure : Failure) :
      CarriedBy id (.read snapshot) (.query id (.error failure))

/-- The first table of a document that begins at an anchor or later. -/
def Snapshot.tableFrom? (snapshot : Snapshot) (anchor : Int) : Option TableLayout :=
  snapshot.tables.find? fun layout => layout.start.any (anchor ≤ ·)

/-- The insertions that fill the cells of a layout with rows of texts, the last cell
first. Texts without a cell are left out. -/
def TableLayout.insertions (layout : TableLayout) (rows : List (List Text)) : List Request :=
  (TableDescriptor.filled rows).reverse.filterMap fun (row, column, text) =>
    (layout.cell? row column).map fun position => .insertTextAt position.paragraphStart text

namespace AnchoredTable

/-- The request that inserts a table empty. -/
def insertion (table : AnchoredTable) : Request :=
  .insertTable table.anchor table.table.rows table.table.columns

/-- The last step, when the document was read a second time: make the header bold, if
there is something to make bold. -/
def boldSteps (table : AnchoredTable) (second : Snapshot) : List Step :=
  match second.tableFrom? table.anchor with
  | none => []
  | some layout =>
      if layout.boldRequests table.table = [] then []
      else [.edit (layout.boldRequests table.table)]

/-- The steps after the cells were filled, if the header has a cell that is not empty. -/
def headerSteps (table : AnchoredTable) (second : Snapshot) : List Step :=
  if ∃ text ∈ table.table.headerCells, text ≠ [] then .read second :: table.boldSteps second
  else []

/-- The steps after the document was read the first time: fill the cells and go on with
the header, if the layout has one of the cells that are not empty. -/
def fillSteps (table : AnchoredTable) (first second : Snapshot) : List Step :=
  match first.tableFrom? table.anchor, table.table.claimed? with
  | some layout, some rows =>
      if ∃ cell ∈ TableDescriptor.filled rows, (layout.cell? cell.1 cell.2.1).isSome then
        .edit (layout.insertions rows) :: table.headerSteps second
      else []
  | _, _ => []

/-- The steps that insert a table and fill it, when the document is read as `first` after
the insertion and as `second` after the filling. -/
def steps (table : AnchoredTable) (first second : Snapshot) : List Step :=
  .edit [table.insertion] :: .read first :: table.fillSteps first second

/-- The steps for tables in the order given, each with the two documents that are read
for it. -/
def plan (tables : List AnchoredTable) (readings : List (Snapshot × Snapshot)) : List Step :=
  (tables.zip readings).flatMap fun (table, first, second) => table.steps first second

/-- Why a table cannot be filled in a document that was read. -/
inductive Unfit (table : AnchoredTable) (snapshot : Snapshot) : Failure → Prop
  | missing (hmissing : snapshot.tableFrom? table.anchor = none) :
      Unfit table snapshot (Fault.service .general none (.tableMissing table.anchor)).alone
  | ragged (hragged : table.table.claimed? = none) : Unfit table snapshot Fault.outOfRange.alone

/-- Whether a batch takes its positions from a document: it fills the cells of the table
that lies there, or makes its header bold. -/
inductive DrawnFrom (table : AnchoredTable) (snapshot : Snapshot) : List Request → Prop
  | filling {layout : TableLayout} {rows : List (List Text)}
      (hlayout : snapshot.tableFrom? table.anchor = some layout)
      (hrows : table.table.claimed? = some rows) :
      DrawnFrom table snapshot (layout.insertions rows)
  | bold {layout : TableLayout} (hlayout : snapshot.tableFrom? table.anchor = some layout) :
      DrawnFrom table snapshot (layout.boldRequests table.table)

end AnchoredTable

/-! ## What a batch is made of -/

/-- A layout as it is read at another generation. -/
def TableLayout.at (layout : TableLayout) (generation : Int) : TableLayout :=
  { layout with generation }

/-- The table that is found does not depend on the generation at which it is read. -/
theorem find?_tables (snapshot : Snapshot) (anchor generation : Int) :
    (snapshot.tables generation).find? (fun layout => layout.start.any (anchor ≤ ·)) =
      (snapshot.tableFrom? anchor).map (·.at generation) := by
  have hlayout : Snapshot.Element.layout? generation =
      fun element => (Snapshot.Element.layout? 0 element).map (·.at generation) := by
    funext element
    rw [Snapshot.Element.layout?, Snapshot.Element.layout?, Option.map_map]
    rfl
  rw [Snapshot.tables, hlayout, ← List.map_filterMap, List.find?_map]
  rfl

/-- Cells are added to a batch one after the other, and those without a place add nothing. -/
theorem foldl_addCell_requests (layout : TableLayout) (cells : List (Nat × Nat × Text))
    (batch : CellBatch) :
    (cells.foldl layout.addCell batch).requests =
      batch.requests ++ cells.filterMap fun (row, column, text) =>
        (layout.cell? row column).map fun position =>
          .insertTextAt position.paragraphStart text := by
  induction cells generalizing batch with
  | nil => simp
  | cons cell rest ih =>
      rw [List.foldl_cons, ih, TableLayout.addCell]
      cases hcell : layout.cell? cell.1 cell.2.1 with
      | none => simp [hcell]
      | some position => simp [hcell]

theorem boldRequests_at (layout : TableLayout) (generation : Int) (table : TableDescriptor) :
    (layout.at generation).boldRequests table = layout.boldRequests table := rfl

theorem cellBatch_at (layout : TableLayout) (generation : Int) (table : TableDescriptor) :
    (layout.at generation).cellBatch table = layout.cellBatch table := rfl

theorem exists_cellBatch (layout : TableLayout) {table : TableDescriptor}
    {rows : List (List Text)} (hrows : table.claimed? = some rows) :
    ∃ batch, layout.cellBatch table = .ok batch ∧ batch.requests = layout.insertions rows := by
  refine ⟨_, by rw [TableLayout.cellBatch, hrows], ?_⟩
  rw [foldl_addCell_requests]
  rfl

/-- A table that claims cells it does not have has none. -/
theorem cellBatch_eq_error (layout : TableLayout) {table : TableDescriptor}
    (hragged : table.claimed? = none) :
    layout.cellBatch table = .error Fault.outOfRange.alone := by
  rw [TableLayout.cellBatch, hragged]

/-- There is nothing to insert just when no cell with text has a place. -/
theorem insertions_eq_nil_iff {layout : TableLayout} {rows : List (List Text)} :
    layout.insertions rows = [] ↔
      ¬∃ cell ∈ TableDescriptor.filled rows, (layout.cell? cell.1 cell.2.1).isSome := by
  simp [TableLayout.insertions]

namespace AnchoredTable

variable {table : AnchoredTable} {first second : Snapshot} {layout : TableLayout}

theorem boldSteps_eq (hlayout : second.tableFrom? table.anchor = some layout) :
    table.boldSteps second =
      if layout.boldRequests table.table = [] then []
      else [.edit (layout.boldRequests table.table)] := by
  rw [boldSteps, hlayout]

/-- Cells are filled unless there is nothing to insert. -/
theorem fillSteps_eq {rows : List (List Text)}
    (hlayout : first.tableFrom? table.anchor = some layout)
    (hrows : table.table.claimed? = some rows) (second : Snapshot) :
    table.fillSteps first second =
      if layout.insertions rows = [] then []
      else .edit (layout.insertions rows) :: table.headerSteps second := by
  rw [fillSteps, hlayout, hrows]
  by_cases hnil : layout.insertions rows = []
  · rw [if_pos hnil]
    exact if_neg (insertions_eq_nil_iff.mp hnil)
  · rw [if_neg hnil]
    rw [insertions_eq_nil_iff, not_not] at hnil
    exact if_pos hnil

end AnchoredTable

/-! ## Records that follow a plan -/

/-- Whether a record follows a plan. The record ends with the plan, or at the first
exchange that breaks off the run, in which case the cause is given. -/
inductive Follows (id : Option String) (breaksOff : Exchange → Failure → Prop) :
    List Step → List Exchange → Option Failure → Prop
  | nil : Follows id breaksOff [] [] none
  | cons {step : Step} {exchange : Exchange} {plan : List Step} {log : List Exchange}
      {cause : Option Failure} (hcarried : step.CarriedBy id exchange)
      (hgood : exchange.failure? = none) (hrest : Follows id breaksOff plan log cause) :
      Follows id breaksOff (step :: plan) (exchange :: log) cause
  | stop {step : Step} {exchange : Exchange} {cause : Failure}
      (hcarried : step.CarriedBy id exchange) (hstop : breaksOff exchange cause)
      (plan : List Step) : Follows id breaksOff (step :: plan) [exchange] (some cause)

namespace Follows

variable {id : Option String} {breaksOff : Exchange → Failure → Prop} {plan later : List Step}
  {log others : List Exchange} {cause : Option Failure}

theorem append (hplan : Follows id breaksOff plan log none)
    (hlater : Follows id breaksOff later others cause) :
    Follows id breaksOff (plan ++ later) (log ++ others) cause := by
  -- A record that is broken off has a cause, so that only the other two cases remain.
  generalize hnone : (none : Option Failure) = ended at hplan
  induction hplan with
  | nil => exact hlater
  | cons hcarried hgood _ ih => exact cons hcarried hgood (ih hnone)
  | stop => exact absurd hnone (by simp)

/-- A run that is broken off has followed every longer plan as well. -/
theorem extend {failure : Failure} (hplan : Follows id breaksOff plan log (some failure))
    (later : List Step) : Follows id breaksOff (plan ++ later) log (some failure) := by
  generalize hsome : some failure = ended at hplan
  induction hplan with
  | nil => exact absurd hsome (by simp)
  | cons hcarried hgood _ ih => exact cons hcarried hgood (ih hsome)
  | stop hcarried hstop plan => exact stop hcarried hstop (plan ++ later)

/-- A record follows a plan also when its stops are told otherwise. -/
theorem imp {others : Exchange → Failure → Prop} {change : Failure → Failure}
    (hplan : Follows id breaksOff plan log cause)
    (himp : ∀ exchange failure, breaksOff exchange failure → others exchange (change failure)) :
    Follows id others plan log (cause.map change) := by
  induction hplan with
  | nil => exact nil
  | cons hcarried hgood _ ih => exact cons hcarried hgood ih
  | stop hcarried hstop plan => exact stop hcarried (himp _ _ hstop) plan

/-- The record is made of the exchanges for a first part of the plan. -/
theorem exists_prefix (hplan : Follows id breaksOff plan log cause) :
    ∃ taken, taken <+: plan ∧ List.Forall₂ (Step.CarriedBy id) taken log := by
  induction hplan with
  | nil => exact ⟨[], List.nil_prefix, List.Forall₂.nil⟩
  | cons hcarried _ _ ih =>
      obtain ⟨taken, hprefix, hforall⟩ := ih
      exact ⟨_, List.cons_prefix_cons.mpr ⟨rfl, hprefix⟩, hforall.cons hcarried⟩
  | stop hcarried _ plan =>
      exact ⟨_, List.cons_prefix_cons.mpr ⟨rfl, List.nil_prefix⟩, List.Forall₂.nil.cons hcarried⟩

/-- A record without a cause has an exchange for every step. -/
theorem carries_all (hplan : Follows id breaksOff plan log none) :
    List.Forall₂ (Step.CarriedBy id) plan log := by
  generalize hnone : (none : Option Failure) = ended at hplan
  induction hplan with
  | nil => exact List.Forall₂.nil
  | cons hcarried _ _ ih => exact (ih hnone).cons hcarried
  | stop => exact absurd hnone (by simp)

/-- Only the last exchange of a record may have failed. -/
theorem pairwise (hplan : Follows id breaksOff plan log cause) :
    log.Pairwise fun earlier _ => earlier.failure? = none := by
  induction hplan with
  | nil => exact List.Pairwise.nil
  | cons _ hgood _ ih => exact List.pairwise_cons.mpr ⟨fun _ _ => hgood, ih⟩
  | stop => exact List.pairwise_singleton _ _

/-- Nothing comes after an exchange that failed. -/
theorem eq_nil_of_failed (hplan : Follows id breaksOff plan log cause)
    {before after : List Exchange} {exchange : Exchange} {failure : Failure}
    (hlog : log = before ++ exchange :: after) (hfailed : exchange.failure? = some failure) :
    after = [] := by
  have hpairwise := hplan.pairwise
  rw [hlog, List.pairwise_append, List.pairwise_cons] at hpairwise
  cases after with
  | nil => rfl
  | cons next rest =>
      -- Any exchange before another one has succeeded.
      have hgood := hpairwise.2.1.1 next List.mem_cons_self
      rw [hgood] at hfailed
      exact absurd hfailed (by simp)

/-- A run that was broken off ends with the exchange that broke it off. -/
theorem exists_last {failure : Failure}
    (hplan : Follows id breaksOff plan log (some failure)) :
    ∃ earlier exchange, log = earlier ++ [exchange] ∧ breaksOff exchange failure := by
  generalize hsome : some failure = ended at hplan
  induction hplan with
  | nil => exact absurd hsome (by simp)
  | cons _ _ _ ih =>
      obtain ⟨earlier, exchange, hlog, hstop⟩ := ih hsome
      exact ⟨_ :: earlier, exchange, by rw [hlog, List.cons_append], hstop⟩
  | stop _ hstop _ =>
      obtain rfl := Option.some.inj hsome
      exact ⟨[], _, rfl, hstop⟩

theorem exists_cons {step : Step} (hplan : Follows id breaksOff (step :: plan) log cause) :
    ∃ exchange rest, log = exchange :: rest := by
  cases hplan with
  | cons => exact ⟨_, _, rfl⟩
  | stop => exact ⟨_, _, rfl⟩

/-- An exchange of a record carries out its step, and where others come after it, it has
succeeded and they follow the rest of the plan. -/
theorem of_cons {step : Step} {first : Exchange} {rest : List Exchange}
    (hplan : Follows id breaksOff (step :: plan) (first :: rest) cause) :
    step.CarriedBy id first ∧
      (rest ≠ [] → first.failure? = none ∧ Follows id breaksOff plan rest cause) := by
  cases hplan with
  | cons hcarried hgood hrest => exact ⟨hcarried, fun _ => ⟨hgood, hrest⟩⟩
  | stop hcarried _ _ => exact ⟨hcarried, fun hsome => absurd rfl hsome⟩

theorem eq_nil_of_nil (hplan : Follows id breaksOff [] log cause) : log = [] := by
  cases hplan
  rfl

end Follows

/-! ## Batches follow readings -/

/-- Whether a batch needs no reading, because it inserts a table empty, or comes right
after a reading of the document from which it takes its positions. -/
inductive Supported (id : Option String) (tables : List AnchoredTable) :
    List Exchange → List Request → Prop
  | insertion {table : AnchoredTable} (hmem : table ∈ tables) (before : List Exchange) :
      Supported id tables before [table.insertion]
  | drawn {table : AnchoredTable} {snapshot : Snapshot} {requests : List Request}
      (hmem : table ∈ tables) (hdrawn : table.DrawnFrom snapshot requests)
      (earlier : List Exchange) :
      Supported id tables (earlier ++ [.query id (.ok snapshot)]) requests

/-- Whether every batch of a plan inserts a table empty, or is drawn from the document of
the step before it. -/
inductive Grounded (tables : List AnchoredTable) : List Step → Prop
  | nil : Grounded tables []
  | insertion {table : AnchoredTable} {plan : List Step} (hmem : table ∈ tables)
      (hplan : Grounded tables plan) : Grounded tables (.edit [table.insertion] :: plan)
  | read (snapshot : Snapshot) {plan : List Step} (hplan : Grounded tables plan) :
      Grounded tables (.read snapshot :: plan)
  | drawn {table : AnchoredTable} {snapshot : Snapshot} {requests : List Request}
      {plan : List Step} (hmem : table ∈ tables) (hdrawn : table.DrawnFrom snapshot requests)
      (hplan : Grounded tables plan) :
      Grounded tables (.read snapshot :: .edit requests :: plan)

section Grounded

variable {id : Option String} {tables : List AnchoredTable} {table : AnchoredTable}
  {plan : List Step}

theorem Supported.cons {before : List Exchange} {requests : List Request}
    (hbefore : Supported id tables before requests) (first : Exchange) :
    Supported id tables (first :: before) requests := by
  cases hbefore with
  | insertion hmem => exact .insertion hmem _
  | drawn hmem hdrawn earlier => exact .drawn hmem hdrawn (first :: earlier)

/-- In a record that follows a grounded plan every batch is supported by what was done before it:
it inserts a table empty, or comes right after the reading it is drawn from. -/
theorem Grounded.supported {breaksOff : Exchange → Failure → Prop}
    {log before later : List Exchange} {cause : Option Failure} {document : Option String}
    {requests : List Request} {outcome : Except Failure Json} (hgrounded : Grounded tables plan)
    (hfollows : Follows id breaksOff plan log cause)
    (hlog : log = before ++ .mutate document requests outcome :: later) :
    Supported id tables before requests := by
  -- The batch belongs to the first step of the plan, or is found in what is left of the
  -- record. Where two steps go together, it may belong to the second one as well.
  subst hlog
  induction hgrounded generalizing before with
  | nil => exact absurd hfollows.eq_nil_of_nil (by simp)
  | insertion hmem _ ih =>
      cases before with
      | nil =>
          cases hfollows.of_cons.1
          exact .insertion hmem []
      | cons first before =>
          obtain ⟨-, hrest⟩ := hfollows.of_cons.2 (by simp)
          exact (ih hrest).cons first
  | read snapshot _ ih =>
      cases before with
      | nil => cases hfollows.of_cons.1
      | cons first before =>
          obtain ⟨-, hrest⟩ := hfollows.of_cons.2 (by simp)
          exact (ih hrest).cons first
  | drawn hmem hdrawn _ ih =>
      cases before with
      | nil => cases hfollows.of_cons.1
      | cons first before =>
          obtain ⟨hgood, hrest⟩ := hfollows.of_cons.2 (by simp)
          cases before with
          | nil =>
              cases hrest.of_cons.1
              cases hfollows.of_cons.1 with
              | read => exact .drawn hmem hdrawn []
              | failedRead => exact absurd hgood (by simp [Exchange.failure?, failureOf?])
          | cons second before =>
              obtain ⟨-, hrest⟩ := hrest.of_cons.2 (by simp)
              exact ((ih hrest).cons second).cons first

/-- The header is made bold at the second reading. -/
theorem grounded_boldSteps (hmem : table ∈ tables) (second : Snapshot)
    (hplan : Grounded tables plan) :
    Grounded tables (.read second :: (table.boldSteps second ++ plan)) := by
  unfold AnchoredTable.boldSteps
  split
  next => exact .read second hplan
  next layout hlayout =>
    split
    next => exact .read second hplan
    next => exact .drawn hmem (.bold hlayout) hplan

/-- The steps for a header read the document before they take a position from it. -/
theorem grounded_headerSteps (hmem : table ∈ tables) (second : Snapshot)
    (hplan : Grounded tables plan) : Grounded tables (table.headerSteps second ++ plan) := by
  unfold AnchoredTable.headerSteps
  split
  next => exact grounded_boldSteps hmem second hplan
  next => exact hplan

/-- The cells are filled at the first reading. -/
theorem grounded_steps (hmem : table ∈ tables) (first second : Snapshot)
    (hplan : Grounded tables plan) : Grounded tables (table.steps first second ++ plan) := by
  refine .insertion hmem ?_
  change Grounded tables (.read first :: (table.fillSteps first second ++ plan))
  unfold AnchoredTable.fillSteps
  split
  next layout rows hlayout hrows =>
    split
    next =>
      exact .drawn hmem (.filling hlayout hrows) (grounded_headerSteps hmem second hplan)
    next => exact .read first hplan
  next => exact .read first hplan

/-- The plan for tables takes no position from anywhere but the step before. -/
theorem grounded_plan {placed : List AnchoredTable} (hplaced : ∀ table ∈ placed, table ∈ tables)
    (readings : List (Snapshot × Snapshot)) :
    Grounded tables (AnchoredTable.plan placed readings) := by
  induction placed generalizing readings with
  | nil => exact .nil
  | cons table rest ih =>
      cases readings with
      | nil => exact .nil
      | cons reading readings =>
          have hrest := ih (fun other hmem => hplaced other (List.mem_cons_of_mem _ hmem)) readings
          exact grounded_steps (hplaced table List.mem_cons_self) reading.1 reading.2 hrest

end Grounded

end DocPress
