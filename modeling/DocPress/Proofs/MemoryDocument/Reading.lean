import DocPress.Proofs.MemoryDocument.Layouts

/-!
# Reading a document in memory

What is read from a snapshot agrees with the document: the layouts list the cells of the
tables with what is in them, the position given for a cell is one at which text goes into
that cell and nowhere else, the body ends where the document ends, and the text is that of
the paragraphs and the tables in order.

All of this is said of documents that show all rows and columns of their tables. Nothing is
asked of the paragraphs and the cells, which may hold any text.
-/

namespace DocPress

/-- The contents of the cells of a layout, row by row. -/
def TableLayout.contents (layout : TableLayout) : List (List Text) :=
  layout.cells.map fun row => row.map CellPosition.content

namespace MemoryDocument

/-- The content of a cell as it is read: line ends at its end are not shown. -/
def shownCell (cell : Text) : Text :=
  dropTrailingRun '\n' cell

/-- The text of an element as it is read: a row of a table is a line, and tabs separate its
cells. -/
def Element.shownText : Element → Text
  | .paragraph text => text
  | .table cells => cells.flatMap fun row => joinWith ['\t'] (row.map shownCell) ++ ['\n']

/-! ## Cells and rows -/

theorem dropTrailingRun_append_singleton (c : Char) (text : Text) :
    dropTrailingRun c (text ++ [c]) = dropTrailingRun c text := by
  rw [dropTrailingRun, List.reverse_append, List.reverse_singleton, List.singleton_append,
    List.dropWhile_cons_of_pos (by simp), dropTrailingRun]

/-- The content of a cell is read without line ends at its end, its own line end among them. -/
theorem content_readCell (row column : Nat) (position : Int) (cell : Text) :
    ((readCell position cell).position row column).content = shownCell cell := by
  simp [Snapshot.Cell.position, readCell, passage, Snapshot.runsText,
    dropTrailingRun_append_singleton, shownCell]

theorem readCells_cons (position : Int) (cell : Text) (rest : List Text) :
    readCells position (cell :: rest) =
      readCell position cell :: readCells (position + cellSize cell) rest := rfl

/-- The cells of a row have the contents of the row, and how they are numbered plays no
part in it. -/
theorem map_content_readCells (position : Int) (cells : List Text) :
    (readCells position cells).map (fun cell => (cell.position 0 0).content) =
      cells.map shownCell := by
  induction cells generalizing position with
  | nil => rfl
  | cons cell rest ih => rw [readCells_cons, List.map_cons, ih, content_readCell, List.map_cons]

/-- The rows of a layout have the contents of the rows of the table. -/
theorem positions_readRows (first : Nat) (position : Int) (rows : List (List Text)) :
    (Snapshot.positions first (readRows none position rows)).map
        (fun row => row.map CellPosition.content) = rows.map (·.map shownCell) := by
  induction rows generalizing first position with
  | nil => rfl
  | cons row rest ih =>
      have hrow : ((readCells (position + 1) row).zipIdx.map Prod.fst).map
          (fun cell => (cell.position 0 0).content) = row.map shownCell := by
        rw [List.zipIdx_map_fst, map_content_readCells]
      rw [List.map_map] at hrow
      rw [readRows, Snapshot.positions, List.map_cons, ih, List.map_map, List.map_cons]
      exact congrArg (· :: _) hrow

theorem line_readRow (position : Int) (row : List Text) :
    (readRow none position row).line = joinWith ['\t'] (row.map shownCell) ++ ['\n'] := by
  rw [Snapshot.Row.line]
  exact congrArg (joinWith ['\t'] · ++ ['\n']) (map_content_readCells (position + 1) row)

theorem flatMap_line_readRows (position : Int) (rows : List (List Text)) :
    (readRows none position rows).flatMap Snapshot.Row.line =
      rows.flatMap fun row => joinWith ['\t'] (row.map shownCell) ++ ['\n'] := by
  induction rows generalizing position with
  | nil => rfl
  | cons row rest ih =>
      rw [readRows, List.flatMap_cons, ih, List.flatMap_cons]
      exact congrArg (· ++ _) (line_readRow position row)

/-! ## Documents -/

section Shown

variable {document : MemoryDocument} (hrows : document.visibleRows = none)
  (hcolumns : document.visibleColumns = none)
include hrows hcolumns

theorem rows_readTable (position : Int) (cells : List (List Text)) :
    (document.readTable position cells).rows = readRows none (position + 1) cells := by
  simp only [readTable, hrows, hcolumns, visible]

/-- The layouts have the contents of the tables, in their order. -/
theorem map_contents_layouts (generation position : Int) (elements : List Element) :
    (document.layouts generation position elements).map TableLayout.contents =
      (tablesOf elements).map (·.map (·.map shownCell)) := by
  induction elements generalizing position with
  | nil => rfl
  | cons element rest ih =>
      cases element with
      | paragraph text => exact ih _
      | table cells =>
          have hcells : (document.layoutAt generation position cells).contents =
              cells.map (·.map shownCell) := by
            simp only [TableLayout.contents, layoutAt, rows_readTable hrows hcolumns]
            exact positions_readRows 0 (position + 1) cells
          rw [layouts_table, List.map_cons, hcells, ih, tablesOf_table, List.map_cons]

/-- The text that is read is the text shown for each element. -/
theorem flatMap_text_readElements (position : Int) (elements : List Element) :
    (document.readElements position elements).flatMap Snapshot.Element.text =
      elements.flatMap Element.shownText := by
  induction elements generalizing position with
  | nil => rfl
  | cons element rest ih =>
      cases element with
      | paragraph text =>
          rw [readElements, List.flatMap_cons, ih, List.flatMap_cons]
          exact congrArg (· ++ _) (List.append_nil text)
      | table cells =>
          have htable : (document.readTable position cells).rows.flatMap Snapshot.Row.line =
              Element.shownText (.table cells) := by
            rw [rows_readTable hrows hcolumns, flatMap_line_readRows, Element.shownText]
          rw [readElements, List.flatMap_cons, ih, List.flatMap_cons]
          exact congrArg (· ++ _) htable

end Shown

/-- Elements that follow one another end where the last of them ends. -/
theorem getLast?_stop_readElements (document : MemoryDocument) {position : Int}
    {before : Snapshot.Element} (hbefore : before.stop = .index position)
    (elements : List Element) :
    (before :: document.readElements position elements).getLast?.map (·.stop) =
      some (.index (position + elementsSize elements)) := by
  induction elements generalizing position before with
  | nil => simp [readElements, hbefore]
  | cons element rest ih =>
      cases element with
      | paragraph text =>
          rw [readElements, List.getLast?_cons_cons, ih rfl, elementsSize_cons, size_paragraph,
            Int.natCast_add, Int.add_assoc]
      | table cells =>
          rw [readElements, List.getLast?_cons_cons, ih rfl, elementsSize_cons, size_table,
            Int.natCast_add, Int.add_assoc]
          rfl

/-- The body ends where the last element ends. -/
theorem stop_snapshot (document : MemoryDocument) :
    document.snapshot.stop = some document.stop := by
  have hbreak : sectionBreak.stop = .index bodyStart := rfl
  have hlast := document.getLast?_stop_readElements hbreak document.elements
  obtain ⟨element, helement, hstop⟩ := Option.map_eq_some_iff.mp hlast
  simp only [Snapshot.stop, snapshot, helement, hstop]
  rfl

/-! ## Agreement -/

/-- What is read in a snapshot agrees with a document. -/
structure Agrees (document : MemoryDocument) (snapshot : Snapshot) : Prop where
  /-- The layouts list the tables in order, and a cell for each of their cells. -/
  contents (generation : Int) :
    (snapshot.tables generation).map TableLayout.contents =
      document.tables.map fun cells => cells.map fun row => row.map shownCell
  /-- A cell is listed by its row and its column, and text that is inserted where its
  paragraph begins goes in front of what is in that cell. Nothing else changes. -/
  insertion (generation : Int) {before after : List Element} {above below : List (List Text)}
      {left right : List Text} {cell : Text}
      (helements : document.elements =
        before ++ .table (above ++ (left ++ cell :: right) :: below) :: after) :
    ∃ layout place index,
      (snapshot.tables generation)[(tablesOf before).length]? = some layout ∧
        layout.cell? above.length left.length = some place ∧
        place.row = above.length ∧ place.column = left.length ∧
        place.paragraphStart = some index ∧
        ∀ inserted : Text, inserted ≠ [] →
          document.apply (.insertText index inserted) =
            .ok { document with
              elements := before ++
                .table (above ++ (left ++ (inserted ++ cell) :: right) :: below) :: after }
  /-- The body ends where the document ends. -/
  stop : snapshot.stop = some document.stop
  /-- The text is that of the paragraphs, and of the tables row by row. -/
  text : snapshot.text = document.elements.flatMap Element.shownText

/-- Text inserted where a cell begins stands in front of what is in the cell. -/
theorem apply_insertText_cellStart {document : MemoryDocument} {before after : List Element}
    {above below : List (List Text)} {left right : List Text} {cell inserted : Text}
    (helements : document.elements =
      before ++ .table (above ++ (left ++ cell :: right) :: below) :: after)
    (hinserted : inserted ≠ []) :
    document.apply (.insertText (cellStart (stopOf before) above left) inserted) =
      .ok { document with
        elements := before ++
          .table (above ++ (left ++ (inserted ++ cell) :: right) :: below) :: after } := by
  have hedit : insertText (cellStart (stopOf before) above left) inserted document.elements =
      .ok (before ++
        .table (above ++ (left ++ splice 0 inserted cell :: right) :: below) :: after) :=
    helements ▸ insertText_cell (Int.add_zero _).symm (Nat.zero_le _) hinserted
  have hsplice : splice 0 inserted cell = inserted ++ cell := by simp [splice]
  rw [hsplice] at hedit
  simp only [apply, Request.edit, edit, changeElements, hedit]
  rfl

/-- What is read in a document that shows its tables in full agrees with the document. -/
theorem agrees_snapshot (document : MemoryDocument) (hrows : document.visibleRows = none)
    (hcolumns : document.visibleColumns = none) : document.Agrees document.snapshot where
  contents generation := map_contents_layouts hrows hcolumns generation bodyStart document.elements
  insertion generation {before after above below left right cell} helements := by
    have hlayout : (document.snapshot.tables generation)[(tablesOf before).length]? =
        some (document.layoutAt generation (stopOf before)
          (above ++ (left ++ cell :: right) :: below)) := by
      rw [snapshot_tables, helements]
      exact document.layouts_getElem? generation bodyStart before after _
    have hshown : document.showsCell (above.length + below.length + 1)
        (left.length + right.length + 1) above.length left.length = true := by
      simp only [showsCell, hrows, hcolumns, shown, Bool.and_eq_true, decide_eq_true_eq]
      omega
    refine ⟨_, cellPlace (stopOf before) above left cell, _, hlayout, ?_, rfl, rfl,
      cellPlace_paragraphStart _ _ _ _, fun inserted hinserted =>
        apply_insertText_cellStart helements hinserted⟩
    rw [layoutAt_cell?, hshown, if_pos rfl]
  stop := document.stop_snapshot
  text := by
    rw [Snapshot.text, snapshot, List.flatMap_cons, flatMap_text_readElements hrows hcolumns]
    rfl

/-- A paragraph, a table whose rows differ in length and one of whose cells ends with line
ends, and a paragraph that has none. -/
theorem agrees_snapshot_raggedTable :
    let document : MemoryDocument :=
      { id := some "d", title := none
        elements := [.paragraph "ab\n".toList,
          .table [["x\n\n".toList, "".toList], ["yz".toList]], .paragraph "c".toList] }
    document.visibleRows = none ∧ document.visibleColumns = none ∧
      document.Agrees document.snapshot ∧
      document.snapshot.stop = some 20 ∧
      document.snapshot.text = "ab\nx\t\nyz\nc".toList :=
  ⟨rfl, rfl, agrees_snapshot _ rfl rfl, by decide, by decide⟩

end MemoryDocument

end DocPress
