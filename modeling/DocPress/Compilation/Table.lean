import DocPress.Compilation.Entities
import DocPress.Node.Basic
import DocPress.Json.Basic

/-!
# Tables to be inserted

A table cannot be part of the text. The text holds an empty line in its place,
and a descriptor says which table belongs there. Cells are plain text; the
header is the first row.
-/

namespace DocPress

/-- A table that belongs at a position of a document. -/
structure TableDescriptor where
  /-- The number of rows, the header included. -/
  rows : Int
  /-- The number of columns. -/
  columns : Int
  /-- The texts of the cells, row by row. -/
  cells : List (List Text)
  /-- The position of the empty line that holds the table's place. -/
  anchor : Option Int := none
  deriving Inhabited

namespace TableDescriptor

/-- The texts of the header cells. -/
def headerCells (table : TableDescriptor) : List Text :=
  table.cells.headD []

/-- A row of texts with exactly `columns` cells: longer rows are cut, shorter
ones filled up with empty cells. -/
def fitRow (columns : Nat) (row : List Text) : List Text :=
  row.take columns ++ List.replicate (columns - row.length) []

/-- The number of columns of a table block: that of its header, or that of its
longest row if the header is empty. -/
def columnCount (header : List (List Inline)) (rows : List (List (List Inline))) : Nat :=
  if header.isEmpty then (rows.map List.length).foldl max 0 else header.length

/-- The descriptor of a table block; there is none for a table without
columns. -/
def ofRows? (header : List (List Inline)) (rows : List (List (List Inline))) :
    Option TableDescriptor :=
  let columns := columnCount header rows
  if columns = 0 then none
  else
    let cells := (header :: rows).map fun row =>
      fitRow columns (row.map fun cell => decodeEntities (plainText cell))
    some { rows := cells.length, columns, cells }

/-- A descriptor as JSON. -/
def toJson (table : TableDescriptor) : Json :=
  let row (cells : List Text) : Json := .array (cells.map .string)
  .object [("anchorOffset", (table.anchor.map Json.int).getD .null), ("rows", .int table.rows),
    ("columns", .int table.columns), ("cells", .array (table.cells.map row)),
    ("headerCells", row table.headerCells)]

end TableDescriptor

end DocPress
