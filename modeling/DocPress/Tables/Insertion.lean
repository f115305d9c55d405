import DocPress.Tables.Generation
import DocPress.Tables.Requests

/-!
# Inserting tables

Every insertion moves what lies after it. The tables of a compilation are
therefore inserted from the last anchor to the first, each in three steps:
insert it empty, fill its cells, make its header bold. Before a step that needs
positions the document is read again. When a step fails, the tables inserted so
far stay in the document, and the failure says how many they are.
-/

namespace DocPress

/-- What the insertion of tables did. -/
structure TableReport where
  /-- The number of tables inserted. -/
  inserted : Nat := 0
  /-- The number of cells filled. -/
  filled : Nat := 0
  /-- The number of texts for which a table had no cell. -/
  skipped : Nat := 0
  /-- The number of header cells made bold. -/
  bolded : Nat := 0
  deriving DecidableEq, Repr, Inhabited

/-- Two reports as one. -/
def TableReport.add (first second : TableReport) : TableReport :=
  { inserted := first.inserted + second.inserted
    filled := first.filled + second.filled
    skipped := first.skipped + second.skipped
    bolded := first.bolded + second.bolded }

/-- A table with the position where it belongs. -/
structure AnchoredTable where
  /-- The position. -/
  anchor : Int
  /-- The table. -/
  table : TableDescriptor
  deriving Inhabited

namespace AnchoredTable

/-- The tables with their anchors; every table must have one. -/
def ofTables (tables : List TableDescriptor) : Except Failure (List AnchoredTable) :=
  tables.mapM fun table =>
    match table.anchor with
    | some anchor => .ok { anchor, table }
    | none => .error (Fault.validation .unanchoredTable).alone

/-- The tables from the last anchor to the first; tables at one anchor keep
their order. -/
def lastFirst (tables : List AnchoredTable) : List AnchoredTable :=
  tables.mergeSort fun first second => second.anchor ≤ first.anchor

end AnchoredTable

namespace Tracked

variable {σ : Type}

/-- The batch that fills a table at a layout, which must be fresh. -/
def cellBatch (layout : TableLayout) (table : TableDescriptor) :
    Action (Tracked σ) CellBatch := do
  requireFresh layout
  .ofExcept (layout.cellBatch table)

/-- The requests that make the header of a table bold at a layout, which must be
fresh. -/
def boldRequests (layout : TableLayout) (table : TableDescriptor) :
    Action (Tracked σ) (List Request) := do
  requireFresh layout
  return layout.boldRequests table

/-- Make the header of a table bold, if it has text; the result is the number of
cells made bold. -/
def boldHeader (client : Client σ) (id : Option String) (table : AnchoredTable) :
    Action (Tracked σ) Nat := do
  if table.table.headerCells.all List.isEmpty then return 0
  let layout ← locate client id table.anchor
  let requests ← boldRequests layout table.table
  if requests.isEmpty then return 0
  let _ ← mutate client id requests
  return requests.length

/-- Insert one table and fill it. -/
def insertTable (client : Client σ) (id : Option String) (table : AnchoredTable) :
    Action (Tracked σ) TableReport := do
  let _ ← mutate client id [.insertTable table.anchor table.table.rows table.table.columns]
  let layout ← locate client id table.anchor
  let batch ← cellBatch layout table.table
  if batch.requests.isEmpty then return { inserted := 1, skipped := batch.skipped }
  let _ ← mutate client id batch.requests
  let bolded ← boldHeader client id table
  return { inserted := 1, filled := batch.requests.length, skipped := batch.skipped, bolded }

end Tracked

/-- Whether a failure says that the tables could not be inserted. Other failures
are mistakes of the caller. -/
def Fault.stopsTables : Fault → Bool
  | .validation _ | .publishing _ | .service .. | .tables .. | .transient _ => true
  | _ => false

/-- The failure of a table, when some tables are complete and some, this one
included, are not. -/
def AnchoredTable.failure (table : AnchoredTable) (completed remaining : Nat) (failure : Failure) :
    Failure :=
  if failure.fault.stopsTables then
    { fault := .tables (.failedAt table.anchor failure.fault.message) completed remaining
        failure.fault.status?
      cause := some failure.fault }
  else failure

namespace Tracked

variable {σ : Type}

/-- Insert tables one after the other, when some are complete already. -/
def insertFrom (client : Client σ) (id : Option String) (completed : Nat) :
    List AnchoredTable → Action (Tracked σ) TableReport
  | [] => return {}
  | table :: rest => do
      let first ← tryCatch (insertTable client id table) fun failure =>
        .fail (table.failure completed (rest.length + 1) failure)
      let others ← insertFrom client id (completed + 1) rest
      return first.add others

/-- Insert tables, given in any order, from the last anchor to the first. -/
def insertTables (client : Client σ) (id : Option String) (tables : List TableDescriptor) :
    Action (Tracked σ) TableReport := do
  let tables ← .ofExcept (AnchoredTable.ofTables tables)
  insertFrom client id 0 (AnchoredTable.lastFirst tables)

end Tracked

end DocPress
