import DocPress.Proofs.MemoryDocument.Positions
import DocPress.Snapshot.Layout

/-!
# Layouts of a document in memory

Which layouts a snapshot of a document lists, where each of them says that its table
begins, and where it says that the cells of that table stand. A document shows the
cells of its tables in full unless rows or columns are hidden.
-/

namespace DocPress.MemoryDocument

variable (document : MemoryDocument) (generation : Int)

/-- The layout of a table that begins at a position. -/
def layoutAt (position : Int) (cells : List (List Text)) : TableLayout :=
  let table := document.readTable position cells
  { start := some position
    stop := some (position + (rowsSize cells + 2))
    columns := table.columnCount
    cells := Snapshot.positions 0 table.rows
    generation }

/-- The layouts of the tables among elements; the first element begins at the
position. -/
def layouts (position : Int) (elements : List Element) : List TableLayout :=
  (document.readElements position elements).filterMap (Snapshot.Element.layout? generation)

@[simp]
theorem layouts_nil (position : Int) : document.layouts generation position [] = [] := rfl

@[simp]
theorem layouts_paragraph (position : Int) (text : Text) (rest : List Element) :
    document.layouts generation position (.paragraph text :: rest) =
      document.layouts generation (position + text.length) rest := rfl

@[simp]
theorem layouts_table (position : Int) (cells : List (List Text)) (rest : List Element) :
    document.layouts generation position (.table cells :: rest) =
      document.layoutAt generation position cells ::
        document.layouts generation (position + (rowsSize cells + 2)) rest := rfl

/-- The tables of a snapshot are those of the document, the first element beginning where the body
does. -/
theorem snapshot_tables :
    document.snapshot.tables generation =
      document.layouts generation bodyStart document.elements := rfl

/-- The layouts of two parts follow each other, the second part beginning where the first ends. -/
theorem layouts_append (position : Int) (before after : List Element) :
    document.layouts generation position (before ++ after) =
      document.layouts generation position before ++
        document.layouts generation (position + elementsSize before) after := by
  induction before generalizing position with
  | nil => simp
  | cons element rest ih =>
      cases element with
      | paragraph text => simp [ih, Int.add_assoc]
      | table cells => simp [ih, Int.add_assoc]

theorem length_layouts (position : Int) (elements : List Element) :
    (document.layouts generation position elements).length = (tablesOf elements).length := by
  induction elements generalizing position with
  | nil => rfl
  | cons element rest ih =>
      cases element with
      | paragraph text => exact ih _
      | table cells => rw [layouts_table, List.length_cons, ih, tablesOf_table, List.length_cons]

/-- The layout of a table comes after those of the tables before it. -/
theorem layouts_getElem? (position : Int) (before after : List Element)
    (cells : List (List Text)) :
    (document.layouts generation position (before ++ .table cells :: after))[
        (tablesOf before).length]? =
      some (document.layoutAt generation (position + elementsSize before) cells) := by
  rw [layouts_append, layouts_table, ← document.length_layouts generation position before,
    List.getElem?_append_right (Nat.le_refl _), Nat.sub_self, List.getElem?_cons_zero]

/-- Paragraphs have no layout. -/
theorem layouts_eq_nil {elements : List Element} (position : Int)
    (helements : tablesOf elements = []) : document.layouts generation position elements = [] := by
  induction elements generalizing position with
  | nil => rfl
  | cons element rest ih =>
      cases element with
      | paragraph text => exact ih _ helements
      | table cells => exact absurd helements (List.cons_ne_nil _ _)

/-- A layout says that its table begins before the elements end. -/
theorem exists_start_of_mem_layouts {position : Int} {elements : List Element}
    {layout : TableLayout} (hmem : layout ∈ document.layouts generation position elements) :
    ∃ start, layout.start = some start ∧ start < position + elementsSize elements := by
  induction elements generalizing position with
  | nil => exact absurd hmem List.not_mem_nil
  | cons element rest ih =>
      cases element with
      | paragraph text =>
          obtain ⟨start, hstart, hlt⟩ := ih hmem
          refine ⟨start, hstart, ?_⟩
          rw [elementsSize_cons, size_paragraph]
          omega
      | table cells =>
          rw [elementsSize_cons, size_table]
          rcases List.mem_cons.mp hmem with rfl | hmem
          · exact ⟨position, rfl, by omega⟩
          · obtain ⟨start, hstart, hlt⟩ := ih hmem
            exact ⟨start, hstart, by omega⟩

/-- When the tables before an anchor are followed by paragraphs that reach beyond it,
the first table that begins at the anchor or later is the one after these paragraphs. -/
theorem find?_layouts {anchor position : Int} {before after : List Element} {text : Text}
    {cells : List (List Text)} (hlow : position + elementsSize before ≤ anchor)
    (hhigh : anchor ≤ position + elementsSize (before ++ paragraphs text)) :
    (document.layouts generation position
        (before ++ paragraphs text ++ .table cells :: after)).find?
        (fun layout => layout.start.any (anchor ≤ ·)) =
      some (document.layoutAt generation
        (position + elementsSize (before ++ paragraphs text)) cells) := by
  -- The tables before the paragraphs begin too early, and paragraphs have no layout.
  have hbefore : (document.layouts generation position before).find?
      (fun layout => layout.start.any (anchor ≤ ·)) = none := by
    rw [List.find?_eq_none]
    intro layout hmem
    obtain ⟨start, hstart, hlt⟩ := document.exists_start_of_mem_layouts generation hmem
    rw [hstart, Option.any_some, decide_eq_true_eq]
    omega
  rw [layouts_append, layouts_append,
    document.layouts_eq_nil generation _ (tablesOf_paragraphs text), List.append_nil,
    List.find?_append, hbefore, Option.none_or, layouts_table]
  exact List.find?_cons_of_pos (decide_eq_true hhigh)

/-! ## Cells -/

variable {document generation}

/-- A cell that begins at a position, as it is read. -/
def readCell (position : Int) (cell : Text) : Snapshot.Cell :=
  { start := .index position
    stop := .index (position + cellSize cell)
    content := [passage (position + 1) (cell ++ ['\n'])] }

/-- A cell begins where the cells to its left end. -/
theorem readCells_getElem? (position : Int) (left right : List Text) (cell : Text) :
    (readCells position (left ++ cell :: right))[left.length]? =
      some (readCell (position + cellsSize left) cell) := by
  induction left generalizing position with
  | nil => simp [readCells, readCell]
  | cons other rest ih =>
      rw [List.cons_append, readCells, List.length_cons, List.getElem?_cons_succ, ih,
        cellsSize_cons, Int.natCast_add, Int.add_assoc]

/-- A row that begins at a position, as it is read. -/
def readRow (columns : Option Int) (position : Int) (row : List Text) : Snapshot.Row :=
  { start := .index position
    stop := .index (position + rowSize row)
    cells := visible columns (readCells (position + 1) row) }

theorem readRows_getElem? (columns : Option Int) (position : Int) (above below : List (List Text))
    (row : List Text) :
    (readRows columns position (above ++ row :: below))[above.length]? =
      some (readRow columns (position + rowsSize above) row) := by
  induction above generalizing position with
  | nil => simp [readRows, readRow]
  | cons other rest ih =>
      have hsize : position + rowSize other + rowsSize rest =
          position + rowsSize (other :: rest) := by
        rw [rowsSize_cons, rowSize_eq]
        omega
      rw [List.cons_append, readRows, List.length_cons, List.getElem?_cons_succ, ih, hsize]

@[simp]
theorem length_readCells (position : Int) (cells : List Text) :
    (readCells position cells).length = cells.length := by
  induction cells generalizing position with
  | nil => rfl
  | cons cell rest ih => rw [readCells, List.length_cons, ih, List.length_cons]

@[simp]
theorem length_readRows (columns : Option Int) (position : Int) (rows : List (List Text)) :
    (readRows columns position rows).length = rows.length := by
  induction rows generalizing position with
  | nil => rfl
  | cons row rest ih => rw [readRows, List.length_cons, ih, List.length_cons]

/-- The rows of a layout are numbered from the first one on, and so are the cells of a row. -/
theorem positions_getElem? (number index : Nat) (rows : List Snapshot.Row) :
    (Snapshot.positions number rows)[index]? = rows[index]?.map fun row =>
      row.cells.zipIdx.map fun (cell, column) => cell.position (number + index) column := by
  induction rows generalizing number index with
  | nil => rfl
  | cons row rest ih =>
      cases index with
      | zero => rfl
      | succ index =>
          rw [Snapshot.positions, List.getElem?_cons_succ, ih, List.getElem?_cons_succ,
            Nat.add_right_comm, Nat.add_assoc]

/-- How many of a number of items can be seen. -/
def shown (count : Option Int) (total : Nat) : Nat :=
  match count with
  | none => total
  | some count => (if 0 ≤ count then count else total + count).toNat

/-- What can be seen is the first part, whether a count says how many items are shown or, being
negative, how many are not. -/
theorem visible_eq_take {α : Type} (count : Option Int) (items : List α) :
    visible count items = items.take (shown count items.length) := by
  cases count with
  | none => exact List.take_length.symm
  | some count => rfl

/-- Whether a cell can be seen in a table with a number of rows and columns. -/
def showsCell (document : MemoryDocument) (rows columns row column : Nat) : Bool :=
  row < shown document.visibleRows rows && column < shown document.visibleColumns columns

/-- Where a cell stands, in a table that begins at a position, below some rows and to the
right of some cells. -/
def cellPlace (position : Int) (above : List (List Text)) (left : List Text) (cell : Text) :
    CellPosition :=
  (readCell (position + 1 + rowsSize above + 1 + cellsSize left) cell).position above.length
    left.length

section CellPlace

variable (position : Int) (above : List (List Text)) (left : List Text) (cell : Text)

theorem cellPlace_paragraphStart :
    (cellPlace position above left cell).paragraphStart = some (cellStart position above left) :=
  rfl

theorem cellPlace_paragraphStop :
    (cellPlace position above left cell).paragraphStop =
      some (cellStart position above left + cell.length + 1) := by
  simp [cellPlace, Snapshot.Cell.position, readCell, passage, Stated.orElse, cellStart,
    Int.add_assoc]

end CellPlace

/-- A layout says where a cell stands if the cell can be seen, and nothing otherwise. -/
theorem layoutAt_cell? {position : Int} {above below : List (List Text)} {left right : List Text}
    {cell : Text} :
    (document.layoutAt generation position
        (above ++ (left ++ cell :: right) :: below)).cell? above.length left.length =
      if document.showsCell (above.length + below.length + 1) (left.length + right.length + 1)
          above.length left.length then
        some (cellPlace position above left cell)
      else none := by
  have hrows : (above ++ (left ++ cell :: right) :: below).length =
      above.length + below.length + 1 := by
    rw [List.length_append, List.length_cons, Nat.add_assoc]
  have hcolumns : (left ++ cell :: right).length = left.length + right.length + 1 := by
    rw [List.length_append, List.length_cons, Nat.add_assoc]
  simp only [TableLayout.cell?, layoutAt, readTable, positions_getElem?, visible_eq_take,
    length_readRows, hrows, showsCell, Bool.and_eq_true, decide_eq_true_eq]
  -- The row is looked up first, among those shown, and then the cell in it.
  by_cases hrow : above.length < shown document.visibleRows (above.length + below.length + 1)
  · rw [List.getElem?_take_of_lt hrow, readRows_getElem?, Option.map_some, Option.bind_some,
      List.getElem?_map, List.getElem?_zipIdx, readRow, visible_eq_take, length_readCells, hcolumns]
    by_cases hcolumn : left.length <
        shown document.visibleColumns (left.length + right.length + 1)
    · rw [List.getElem?_take_of_lt hcolumn, readCells_getElem?, if_pos ⟨hrow, hcolumn⟩]
      simp [cellPlace]
    · rw [List.getElem?_take_eq_none (Nat.le_of_not_lt hcolumn),
        if_neg fun hboth => hcolumn hboth.2]
      rfl
  · rw [List.getElem?_take_eq_none (Nat.le_of_not_lt hrow), if_neg fun hboth => hrow hboth.1]
    rfl

end DocPress.MemoryDocument
