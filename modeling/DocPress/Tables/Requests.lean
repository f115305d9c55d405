import DocPress.Compilation.Table
import DocPress.Request
import DocPress.Snapshot.Layout

/-!
# Requests that fill a table

A table is inserted empty. Its cells are filled in one batch, the last cell
first, so that no insertion moves a cell that is still to be filled. The header
is made bold in a later batch, for which the positions are read again.
-/

namespace DocPress

namespace TableDescriptor

/-- The rows and columns that a descriptor claims to have; `none` if some of
these cells are missing. -/
def claimed? (table : TableDescriptor) : Option (List (List Text)) :=
  if table.rows ≤ 0 ∨ table.columns ≤ 0 then some []
  else
    let rows := table.cells.take table.rows.toNat
    if table.rows ≤ table.cells.length ∧ rows.all fun row => table.columns ≤ row.length then
      some (rows.map (·.take table.columns.toNat))
    else none

/-- The cells of rows that hold text, each with its row and its column. -/
def filled (rows : List (List Text)) : List (Nat × Nat × Text) :=
  rows.zipIdx.flatMap fun (cells, row) =>
    cells.zipIdx.filterMap fun (text, column) =>
      if text.isEmpty then none else some (row, column, text)

end TableDescriptor

/-- The batch that fills a table. -/
structure CellBatch where
  /-- The insertions, the last cell first. -/
  requests : List Request := []
  /-- The number of texts for which the table has no cell. -/
  skipped : Nat := 0

/-- Insert text at a position that may be missing. -/
def Request.insertTextAt (index : Option Int) (text : Text) : Request :=
  match index with
  | some index => .insertText index text
  | none => .other "insertText"
      (.object [("location", .object [("index", .null)]), ("text", .string text)]) []

namespace TableLayout

/-- A batch with one more text at its end. -/
def addCell (layout : TableLayout) (batch : CellBatch) (cell : Nat × Nat × Text) : CellBatch :=
  match layout.cell? cell.1 cell.2.1 with
  | some position =>
      { batch with
        requests := batch.requests ++ [.insertTextAt position.paragraphStart cell.2.2] }
  | none => { batch with skipped := batch.skipped + 1 }

/-- The batch that fills a table, from the last cell to the first. -/
def cellBatch (layout : TableLayout) (table : TableDescriptor) : Except Failure CellBatch :=
  match table.claimed? with
  | none => .error Fault.outOfRange.alone
  | some rows => .ok ((TableDescriptor.filled rows).reverse.foldl layout.addCell {})

/-- Make a range bold. -/
def boldRequest (start stop : Int) : Request :=
  .styleText start stop [("bold", .bool true)] (some "bold")

/-- Make the text of a cell bold, without the line end after it. -/
def boldCell? (position : CellPosition) : Option Request := do
  let start ← position.paragraphStart
  let stop ← position.paragraphStop
  if start < stop - 1 then some (boldRequest start (stop - 1)) else none

/-- Make the header of a table bold, one request for each cell with text. -/
def boldRequests (layout : TableLayout) (table : TableDescriptor) : List Request :=
  table.headerCells.zipIdx.filterMap fun (text, column) =>
    if text.isEmpty then none else (layout.cell? 0 column).bind boldCell?

end TableLayout

end DocPress
