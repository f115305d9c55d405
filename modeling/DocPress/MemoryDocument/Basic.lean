import DocPress.Json.Basic
import DocPress.Snapshot.Basic

/-!
# Documents in memory

A document in memory is a list of paragraphs and tables. Its positions count
characters and are laid out as the service lays them out: the body begins at
one, a paragraph covers its characters, and a table covers one position for
itself, one for each row and each cell, the characters of its cells with a line
end after each, and one position at its end.
-/

namespace DocPress

namespace MemoryDocument

/-- A top-level element. -/
inductive Element
  /-- Text with its line end. -/
  | paragraph (text : Text)
  /-- A table; the texts of its cells stand without their line ends. -/
  | table (cells : List (List Text))
  deriving DecidableEq, Repr, Inhabited

/-- The number of positions that a cell covers. -/
def cellSize (cell : Text) : Nat :=
  cell.length + 2

/-- The number of positions that cells cover. -/
def cellsSize : List Text → Nat
  | [] => 0
  | cell :: rest => cellSize cell + cellsSize rest

/-- The number of positions that a row covers. -/
def rowSize (row : List Text) : Nat :=
  1 + cellsSize row

/-- The number of positions that the rows of a table cover. -/
def rowsSize : List (List Text) → Nat
  | [] => 0
  | row :: rest => rowSize row + rowsSize rest

/-- The number of positions that an element covers. -/
def Element.size : Element → Nat
  | .paragraph text => text.length
  | .table cells => rowsSize cells + 2

/-- The number of positions that elements cover. -/
def elementsSize : List Element → Nat
  | [] => 0
  | element :: rest => element.size + elementsSize rest

/-- Where the body begins. -/
def bodyStart : Int := 1

/-- The position after elements that begin where the body begins. -/
def stopOf (elements : List Element) : Int :=
  bodyStart + elementsSize elements

/-- A style that a request gave to a range. -/
structure StyleRecord where
  /-- The name of the request. -/
  request : String
  /-- The first position covered. -/
  start : Int
  /-- The position after the last one covered. -/
  stop : Int
  /-- The text covered when the request was applied. -/
  text : Text
  /-- The style. -/
  style : Json
  deriving Inhabited

end MemoryDocument

/-- A document in memory. -/
structure MemoryDocument where
  /-- Its identifier. -/
  id : Option String
  /-- Its title. -/
  title : Option String
  /-- Its paragraphs and tables in order. -/
  elements : List MemoryDocument.Element
  /-- The styles given so far, the oldest first. -/
  styles : List MemoryDocument.StyleRecord := []
  /-- How many batches of edits have been asked for. -/
  mutations : Nat := 0
  /-- The batch that fails, counted from one. -/
  failAt : Option Int := none
  /-- How many rows of a table can be seen. -/
  visibleRows : Option Int := none
  /-- How many columns of a table can be seen. -/
  visibleColumns : Option Int := none
  deriving Inhabited

namespace MemoryDocument

/-- The elements of a document without text. -/
def blank : List Element :=
  [.paragraph ['\n']]

/-- The paragraphs of a document from their texts. -/
def ofParagraphs (paragraphs : List Text) : List Element :=
  if paragraphs.isEmpty then blank else paragraphs.map .paragraph

/-- The position after the document. -/
def stop (document : MemoryDocument) : Int :=
  stopOf document.elements

/-- The text of the paragraphs, without that of the tables. -/
def text (document : MemoryDocument) : Text :=
  document.elements.flatMap fun
    | .paragraph text => text
    | .table _ => []

/-- The cells of the tables in order. -/
def tables (document : MemoryDocument) : List (List (List Text)) :=
  document.elements.filterMap fun
    | .paragraph _ => none
    | .table cells => some cells

/-! ## Reading -/

/-- The items that can be seen: all of them, the first ones, or, for a number
below zero, all but the last ones. -/
def visible {α : Type} (count : Option Int) (items : List α) : List α :=
  match count with
  | none => items
  | some count => items.take (if 0 ≤ count then count else items.length + count).toNat

/-- A paragraph that begins at a position, as it is read. -/
def passage (start : Int) (text : Text) : Snapshot.Passage :=
  let stop := start + text.length
  { start := .index start
    stop := .index stop
    runs := some [{ start := .index start, stop := .index stop, content := text }] }

/-- The cells of a row; the first one begins at the position. -/
def readCells (position : Int) : List Text → List Snapshot.Cell
  | [] => []
  | cell :: rest =>
      { start := .index position
        stop := .index (position + cellSize cell)
        content := [passage (position + 1) (cell ++ ['\n'])] } ::
        readCells (position + cellSize cell) rest

/-- The rows of a table; the first one begins at the position. -/
def readRows (columns : Option Int) (position : Int) : List (List Text) → List Snapshot.Row
  | [] => []
  | row :: rest =>
      { start := .index position
        stop := .index (position + rowSize row)
        cells := visible columns (readCells (position + 1) row) } ::
        readRows columns (position + rowSize row) rest

/-- A table that begins at the position. -/
def readTable (document : MemoryDocument) (position : Int) (cells : List (List Text)) :
    Snapshot.Table :=
  let rows := visible document.visibleRows (readRows document.visibleColumns (position + 1) cells)
  { columns := some (rows.headD {}).cells.length, rows }

/-- The elements of the body; the first one begins at the position. -/
def readElements (document : MemoryDocument) (position : Int) :
    List Element → List Snapshot.Element
  | [] => []
  | .paragraph text :: rest =>
      { toPassage := passage position text } ::
        document.readElements (position + text.length) rest
  | .table cells :: rest =>
      let stop := position + (rowsSize cells + 2)
      { start := .index position
        stop := .index stop
        table := some (document.readTable position cells) } ::
        document.readElements stop rest

/-- The break before the body. -/
def sectionBreak : Snapshot.Element :=
  { start := .index 0, stop := .index bodyStart }

/-- The document as it is read. -/
def snapshot (document : MemoryDocument) : Snapshot :=
  { id := document.id
    title := document.title
    body := sectionBreak :: document.readElements bodyStart document.elements }

end MemoryDocument

end DocPress
