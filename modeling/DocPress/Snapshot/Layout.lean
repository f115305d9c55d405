import DocPress.Failure
import DocPress.Snapshot.Basic

/-!
# Where the tables of a document lie

A layout lists the cells of one table with their positions. Positions are good
for one generation of a document only: every edit begins a new one. A layout
therefore carries the generation that it was read from.
-/

namespace DocPress

/-- Where a cell lies, and what it holds. -/
structure CellPosition where
  /-- The row, counted from zero. -/
  row : Nat
  /-- The column, counted from zero. -/
  column : Nat
  /-- Where the cell begins. -/
  start : Option Int
  /-- The position after the cell. -/
  stop : Option Int
  /-- Where the first paragraph of the cell begins; text is inserted here. -/
  paragraphStart : Option Int
  /-- The position after the first paragraph, whose line end counts. -/
  paragraphStop : Option Int
  /-- The text of the cell without the line ends at its end. -/
  content : Text
  deriving DecidableEq, Repr

/-- Where a table lies, and its cells. -/
structure TableLayout where
  /-- Where the table begins. -/
  start : Option Int
  /-- The position after the table. -/
  stop : Option Int
  /-- The number of columns. -/
  columns : Int
  /-- The cells, row by row. -/
  cells : List (List CellPosition)
  /-- The generation of the document that the positions belong to. -/
  generation : Int
  deriving DecidableEq, Repr

/-- An item of a list; a position below zero counts from the end. -/
def itemAt? {α : Type} (items : List α) (position : Int) : Option α :=
  if 0 ≤ position then items[position.toNat]?
  else if -position ≤ items.length then items[(items.length + position).toNat]?
  else none

namespace TableLayout

/-- The number of rows. -/
def rows (layout : TableLayout) : Nat :=
  layout.cells.length

/-- The cell of a row and a column, if the table has it. -/
def cell? (layout : TableLayout) (row column : Nat) : Option CellPosition :=
  layout.cells[row]?.bind (·[column]?)

/-- The cell of a row and a column, each of which may count from the end; there
is no cell after the last row or column, and to go beyond the first is an
error. -/
def probe (layout : TableLayout) (row column : Int) : Except Failure (Option CellPosition) :=
  if layout.cells.length ≤ row then .ok none
  else
    match itemAt? layout.cells row with
    | none => .error Fault.outOfRange.alone
    | some cells =>
        if cells.length ≤ column then .ok none
        else
          match itemAt? cells column with
          | none => .error Fault.outOfRange.alone
          | some cell => .ok (some cell)

end TableLayout

namespace Snapshot

/-- The position after a position. -/
def next (index : Option Int) : Option Int :=
  index.map (· + 1)

/-- Where a cell lies. A cell without passages is taken to hold an empty
paragraph right after its beginning. -/
def Cell.position (row column : Nat) (cell : Cell) : CellPosition :=
  let start := cell.start.orElse (some 0)
  let first := cell.content.headD {}
  let paragraphStart := first.start.orElse (next start)
  { row, column, start, paragraphStart
    stop := cell.stop.orElse start
    paragraphStop := first.stop.orElse (next paragraphStart)
    content := dropTrailingRun '\n'
      (cell.content.flatMap fun passage => runsText (passage.runs.getD [])) }

/-- The cells of rows with their positions; the first row has the given
number. -/
def positions (row : Nat) : List Row → List (List CellPosition)
  | [] => []
  | first :: rest =>
      (first.cells.zipIdx.map fun (cell, column) => cell.position row column) ::
        positions (row + 1) rest

/-- The number of columns of a table: the stated one, unless it is zero or
missing, or else that of the longest row. -/
def Table.columnCount (table : Table) : Int :=
  let longest : Int := ((table.rows.map fun row => row.cells.length).foldl max 0 : Nat)
  match table.columns with
  | some columns => if columns = 0 then longest else columns
  | none => longest

/-- The layout of an element that holds a table. -/
def Element.layout? (generation : Int) (element : Element) : Option TableLayout :=
  element.table.map fun table =>
    { start := element.start.orElse (some 0)
      stop := element.stop.orElse (some 0)
      columns := table.columnCount
      cells := positions 0 table.rows
      generation }

/-- The layouts of the top-level tables in order. -/
def tables (snapshot : Snapshot) (generation : Int := 0) : List TableLayout :=
  snapshot.body.filterMap (Element.layout? generation)

/-- The cell of a row and a column of a table; each position may count from the
end. -/
def probe (snapshot : Snapshot) (generation table row column : Int) :
    Except Failure (Option CellPosition) :=
  match itemAt? (snapshot.tables generation) table with
  | none => .error Fault.outOfRange.alone
  | some layout => layout.probe row column

/-- The position after the body. The line end of the last paragraph stands
before it. -/
def stop (snapshot : Snapshot) : Option Int :=
  match snapshot.body.getLast? with
  | none => some 1
  | some element => element.stop.orElse (some 1)

/-- A row as one line: its cells are separated by tabs. -/
def Row.line (row : Row) : Text :=
  joinWith ['\t'] (row.cells.map fun cell => (cell.position 0 0).content) ++ ['\n']

/-- The text of an element. -/
def Element.text (element : Element) : Text :=
  match element.runs, element.table with
  | some runs, _ => runsText runs
  | none, some table => table.rows.flatMap Row.line
  | none, none => []

/-- The text of a document: its paragraphs, and its tables row by row. -/
def text (snapshot : Snapshot) : Text :=
  snapshot.body.flatMap Element.text

end Snapshot

end DocPress
