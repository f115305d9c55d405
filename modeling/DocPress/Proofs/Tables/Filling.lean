import DocPress.Proofs.MemoryDocument.Batches
import DocPress.Proofs.MemoryDocument.Layouts
import DocPress.Proofs.Tables.Plan

/-!
# Filling a table

The cells of an empty table are filled from the last one to the first. Until a cell is
filled, everything before it in the table is empty, so that its position is the one it
had in the empty table. Making the header bold changes no element; every text of the
header is noted once. Where a document hides rows or columns, the cells that cannot be
seen stay empty, as if the table had no texts for them.
-/

namespace DocPress

open MemoryDocument

/-! ## Tables in the shape of a grid -/

/-- Whether a table has a header, and in every row as many cells as it has columns. -/
structure TableDescriptor.IsGrid (table : TableDescriptor) : Prop where
  rows_eq : table.rows = table.cells.length
  cells_ne_nil : table.cells ≠ []
  columns_pos : 0 < table.columns
  width : ∀ row ∈ table.cells, (row.length : Int) = table.columns

namespace TableDescriptor.IsGrid

variable {table : TableDescriptor}

theorem length_eq (hgrid : table.IsGrid) {row : List Text} (hmem : row ∈ table.cells) :
    row.length = table.columns.toNat := by
  have := hgrid.width row hmem
  omega

/-- A grid claims exactly the cells that it has. -/
theorem claimed?_eq (hgrid : table.IsGrid) : table.claimed? = some table.cells := by
  have hrows := hgrid.rows_eq
  have hcolumns := hgrid.columns_pos
  have hlength : 0 < table.cells.length := List.length_pos_iff.mpr hgrid.cells_ne_nil
  have htake : table.cells.take table.rows.toNat = table.cells :=
    List.take_of_length_le (by omega)
  have hwide : ∀ row ∈ table.cells, table.columns ≤ row.length :=
    fun row hmem => Int.le_of_eq (hgrid.width row hmem).symm
  have hfull : ∀ row ∈ table.cells, row.take table.columns.toNat = row :=
    fun row hmem => List.take_of_length_le (Nat.le_of_eq (hgrid.length_eq hmem))
  rw [claimed?, if_neg (by omega), htake]
  simp only [List.all_eq_true, decide_eq_true_eq]
  rw [if_pos ⟨by omega, hwide⟩, List.map_congr_left hfull, List.map_id']

end TableDescriptor.IsGrid

/-! ## The batch that fills a table -/

namespace TableDescriptor

/-- The cells of a row that hold text; the row and its first cell have the given
numbers. -/
def filledRow (number column : Nat) (row : List Text) : List (Nat × Nat × Text) :=
  (row.zipIdx column).filterMap fun (text, column) =>
    if text.isEmpty then none else some (number, column, text)

/-- The cells of rows that hold text; the first row has the given number. -/
def filledFrom (number : Nat) (rows : List (List Text)) : List (Nat × Nat × Text) :=
  (rows.zipIdx number).flatMap fun (row, number) => filledRow number 0 row

theorem filled_eq (rows : List (List Text)) : filled rows = filledFrom 0 rows := rfl

theorem filledFrom_cons (number : Nat) (row : List Text) (rest : List (List Text)) :
    filledFrom number (row :: rest) = filledRow number 0 row ++ filledFrom (number + 1) rest := rfl

theorem filledRow_cons_nil (number column : Nat) (rest : List Text) :
    filledRow number column ([] :: rest) = filledRow number (column + 1) rest := rfl

theorem filledRow_cons_of_ne {text : Text} (htext : text ≠ []) (number column : Nat)
    (rest : List Text) :
    filledRow number column (text :: rest) =
      (number, column, text) :: filledRow number (column + 1) rest := by
  rw [filledRow, List.zipIdx_cons]
  exact List.filterMap_cons_some (if_neg (by simpa using htext))

/-- A cell of a grid that holds text lies in the grid. -/
theorem lt_of_mem_filled {columns : Nat} {rows : List (List Text)}
    (hwidth : ∀ row ∈ rows, row.length = columns) {cell : Nat × Nat × Text}
    (hmem : cell ∈ filled rows) : cell.1 < rows.length ∧ cell.2.1 < columns := by
  obtain ⟨⟨row, number⟩, hrow, hmem⟩ := List.mem_flatMap.mp hmem
  obtain ⟨⟨text, column⟩, htext, hcell⟩ := List.mem_filterMap.mp hmem
  obtain ⟨hlt, hget⟩ := List.getElem?_eq_some_iff.mp (List.mem_zipIdx_iff_getElem?.mp hrow)
  obtain ⟨hlt', _⟩ := List.getElem?_eq_some_iff.mp (List.mem_zipIdx_iff_getElem?.mp htext)
  have hlength := hwidth row (List.mem_of_getElem hget)
  simp only at hcell
  split at hcell
  next => exact absurd hcell (by simp)
  next =>
    obtain rfl := Option.some.inj hcell
    exact ⟨hlt, hlength ▸ hlt'⟩

end TableDescriptor

open TableDescriptor

/-- Rows of empty cells. -/
def emptyRows (rows columns : Nat) : List (List Text) :=
  List.replicate rows (List.replicate columns [])

theorem emptyCells_eq {rows : Int} {count : Nat} (hrows : rows = count) (columns : Int) :
    emptyCells rows columns = emptyRows count columns.toNat := by
  rw [emptyCells, hrows, Int.toNat_natCast, emptyRows]

/-- The request that fills a cell of a table that begins at a position, when the cells
before it are empty. -/
def fillRequest (position : Int) (columns : Nat) (cell : Nat × Nat × Text) : Request :=
  .insertText (cellStart position (emptyRows cell.1 columns) (List.replicate cell.2.1 [])) cell.2.2

/-- An empty table is a row between rows, and a cell between cells, at each of its
places. -/
theorem emptyRows_split {rows columns row column : Nat} (hrow : row < rows)
    (hcolumn : column < columns) :
    emptyRows rows columns = emptyRows row columns ++
      (List.replicate column [] ++ [] :: List.replicate (columns - column - 1) []) ::
        emptyRows (rows - row - 1) columns := by
  have hcells : List.replicate column ([] : Text) ++
      [] :: List.replicate (columns - column - 1) [] = List.replicate columns [] := by
    rw [← List.replicate_succ, List.replicate_append_replicate]
    congr 1
    omega
  rw [hcells, emptyRows, emptyRows, emptyRows, ← List.replicate_succ,
    List.replicate_append_replicate]
  congr 1
  omega

/-! ### The cells that can be seen -/

/-- A row of which only the first cells can be seen; the others are empty. -/
def seenRow : Nat → List Text → List Text
  | _, [] => []
  | 0, _ :: rest => [] :: seenRow 0 rest
  | width + 1, text :: rest => text :: seenRow width rest

/-- Rows of which only the first ones can be seen, and in these only the first cells. -/
def seenRows (width : Nat) : Nat → List (List Text) → List (List Text)
  | _, [] => []
  | 0, row :: rest => seenRow 0 row :: seenRows width 0 rest
  | height + 1, row :: rest => seenRow width row :: seenRows width height rest

@[simp]
theorem length_seenRow (width : Nat) (row : List Text) :
    (seenRow width row).length = row.length := by
  induction row generalizing width with
  | nil => cases width <;> rfl
  | cons text rest ih => cases width <;> simp [seenRow, ih]

@[simp]
theorem length_seenRows (width height : Nat) (rows : List (List Text)) :
    (seenRows width height rows).length = rows.length := by
  induction rows generalizing height with
  | nil => cases height <;> rfl
  | cons row rest ih => cases height <;> simp [seenRows, ih]

theorem seenRow_eq_self {width : Nat} {row : List Text} (hwidth : row.length ≤ width) :
    seenRow width row = row := by
  induction row generalizing width with
  | nil => cases width <;> rfl
  | cons text rest ih =>
      cases width with
      | zero => exact absurd hwidth (Nat.not_succ_le_zero _)
      | succ width => rw [seenRow, ih (Nat.le_of_succ_le_succ hwidth)]

/-- Nothing is hidden of a table that can be seen to its end. -/
theorem seenRows_eq_self {width height : Nat} {rows : List (List Text)}
    (hheight : rows.length ≤ height) (hwidth : ∀ row ∈ rows, row.length ≤ width) :
    seenRows width height rows = rows := by
  induction rows generalizing height with
  | nil => cases height <;> rfl
  | cons row rest ih =>
      cases height with
      | zero => exact absurd hheight (Nat.not_succ_le_zero _)
      | succ height =>
          rw [seenRows, seenRow_eq_self (hwidth row List.mem_cons_self),
            ih (Nat.le_of_succ_le_succ hheight)
              fun other hmem => hwidth other (List.mem_cons_of_mem _ hmem)]

/-- Hiding keeps the width of a table. -/
theorem length_of_mem_seenRows {width height columns : Nat} {rows : List (List Text)}
    (hwidth : ∀ row ∈ rows, row.length = columns) {row : List Text}
    (hmem : row ∈ seenRows width height rows) : row.length = columns := by
  induction rows generalizing height with
  | nil => cases height <;> exact absurd hmem List.not_mem_nil
  | cons first rest ih =>
      have hfirst := hwidth first List.mem_cons_self
      have hrest := fun other hmem => hwidth other (List.mem_cons_of_mem _ hmem)
      cases height with
      | zero =>
          rcases List.mem_cons.mp hmem with rfl | hmem
          · rw [length_seenRow, hfirst]
          · exact ih hrest hmem
      | succ height =>
          rcases List.mem_cons.mp hmem with rfl | hmem
          · rw [length_seenRow, hfirst]
          · exact ih hrest hmem

/-- The cells of a row lie in that row, its first cell included. -/
theorem of_mem_filledRow {number column : Nat} {row : List Text} {cell : Nat × Nat × Text}
    (hmem : cell ∈ filledRow number column row) : cell.1 = number ∧ column ≤ cell.2.1 := by
  obtain ⟨⟨text, place⟩, htext, hcell⟩ := List.mem_filterMap.mp hmem
  have hplace := List.le_snd_of_mem_zipIdx htext
  simp only at hcell
  split at hcell
  next => exact absurd hcell (by simp)
  next =>
    obtain rfl := Option.some.inj hcell
    exact ⟨rfl, hplace⟩

theorem le_of_mem_filledFrom {number : Nat} {rows : List (List Text)} {cell : Nat × Nat × Text}
    (hmem : cell ∈ filledFrom number rows) : number ≤ cell.1 := by
  obtain ⟨⟨row, place⟩, hrow, hmem⟩ := List.mem_flatMap.mp hmem
  rw [(of_mem_filledRow hmem).1]
  exact List.le_snd_of_mem_zipIdx hrow

@[simp]
theorem filledRow_seenRow_zero (number column : Nat) (row : List Text) :
    filledRow number column (seenRow 0 row) = [] := by
  induction row generalizing column with
  | nil => rfl
  | cons text rest ih => rw [seenRow, filledRow_cons_nil, ih]

/-- The texts of a row that can be seen are those in its first cells. -/
theorem filledRow_seenRow (number column width : Nat) (row : List Text) :
    filledRow number column (seenRow width row) =
      (filledRow number column row).filter fun cell => cell.2.1 < column + width := by
  induction row generalizing column width with
  | nil => cases width <;> rfl
  | cons text rest ih =>
      cases width with
      | zero =>
          rw [filledRow_seenRow_zero, eq_comm, List.filter_eq_nil_iff]
          intro cell hmem
          have hcolumn := (of_mem_filledRow hmem).2
          simpa using hcolumn
      | succ width =>
          have hrest := ih (column + 1) width
          rw [Nat.add_right_comm, Nat.add_assoc] at hrest
          by_cases htext : text = []
          · rw [htext, seenRow, filledRow_cons_nil, filledRow_cons_nil, hrest]
          · rw [seenRow, filledRow_cons_of_ne htext, filledRow_cons_of_ne htext,
              List.filter_cons_of_pos (by simp), hrest]

@[simp]
theorem filledFrom_seenRows_zero (number width : Nat) (rows : List (List Text)) :
    filledFrom number (seenRows width 0 rows) = [] := by
  induction rows generalizing number with
  | nil => rfl
  | cons row rest ih => rw [seenRows, filledFrom_cons, filledRow_seenRow_zero, ih, List.append_nil]

/-- Hiding rows and columns leaves out the texts of the cells that are hidden. -/
theorem filledFrom_seenRows (number width height : Nat) (rows : List (List Text)) :
    filledFrom number (seenRows width height rows) =
      (filledFrom number rows).filter fun cell =>
        cell.1 < number + height && cell.2.1 < width := by
  induction rows generalizing number height with
  | nil => cases height <;> rfl
  | cons row rest ih =>
      cases height with
      -- All rows from here on are hidden.
      | zero =>
          rw [filledFrom_seenRows_zero, eq_comm, List.filter_eq_nil_iff]
          intro cell hmem
          have hrow := le_of_mem_filledFrom hmem
          simp only [Nat.add_zero, Bool.and_eq_true, decide_eq_true_eq]
          omega
      | succ height =>
          have hrest := ih (number + 1) height
          rw [Nat.add_right_comm, Nat.add_assoc] at hrest
          have hrow : (filledRow number 0 row).filter
              (fun cell => cell.1 < number + (height + 1) && cell.2.1 < width) =
              (filledRow number 0 row).filter fun cell => cell.2.1 < 0 + width := by
            apply List.filter_congr
            intro cell hmem
            rw [(of_mem_filledRow hmem).1, Nat.zero_add]
            simp
          rw [seenRows, filledFrom_cons, filledFrom_cons, List.filter_append, hrow,
            filledRow_seenRow, hrest]

/-- A table with the texts that can be seen once it is in a document. -/
def MemoryDocument.seen (document : MemoryDocument) (table : TableDescriptor) : TableDescriptor :=
  { table with
    cells := seenRows (shown document.visibleColumns table.columns.toNat)
      (shown document.visibleRows table.rows.toNat) table.cells }

namespace TableDescriptor.IsGrid

variable {table : TableDescriptor} (hgrid : table.IsGrid)
include hgrid

/-- A grid of which something is hidden is a grid still. -/
theorem seen (document : MemoryDocument) : (document.seen table).IsGrid where
  rows_eq := by rw [MemoryDocument.seen, length_seenRows]; exact hgrid.rows_eq
  cells_ne_nil := by
    rw [MemoryDocument.seen, ← List.length_pos_iff, length_seenRows, List.length_pos_iff]
    exact hgrid.cells_ne_nil
  columns_pos := hgrid.columns_pos
  width := by
    intro row hmem
    have hlength := length_of_mem_seenRows (fun _ hmem => hgrid.length_eq hmem) hmem
    have hcolumns := hgrid.columns_pos
    change (row.length : Int) = table.columns
    omega

/-- A document that hides nothing shows all texts. -/
theorem seen_eq_self {document : MemoryDocument} (hrows : document.visibleRows = none)
    (hcolumns : document.visibleColumns = none) : document.seen table = table := by
  have hheight : table.cells.length ≤ table.rows.toNat := by
    have := hgrid.rows_eq
    omega
  rw [MemoryDocument.seen, hrows, hcolumns, shown, shown,
    seenRows_eq_self hheight fun row hmem => Nat.le_of_eq (hgrid.length_eq hmem)]

end TableDescriptor.IsGrid

/-- The texts that can be seen are those in cells that the document shows. -/
theorem filled_seen (document : MemoryDocument) (table : TableDescriptor) :
    filled (document.seen table).cells = (filled table.cells).filter fun cell =>
      document.showsCell table.rows.toNat table.columns.toNat cell.1 cell.2.1 := by
  rw [filled_eq, filled_eq, MemoryDocument.seen, filledFrom_seenRows]
  simp only [Nat.zero_add, showsCell]

/-- The batch that fills a grid asks for every text that can be seen at the place it has in
the empty table. -/
theorem insertions_eq {document : MemoryDocument} {table : TableDescriptor} (hgrid : table.IsGrid)
    (generation position : Int) :
    (document.layoutAt generation position (emptyCells table.rows table.columns)).insertions
        table.cells =
      (filled (document.seen table).cells).reverse.map
        (fillRequest position table.columns.toNat) := by
  rw [filled_seen, ← List.filter_reverse, ← List.filterMap_eq_map', List.filterMap_filter]
  apply List.filterMap_congr
  rintro ⟨row, column, text⟩ hmem
  obtain ⟨hrow, hcolumn⟩ := lt_of_mem_filled (fun _ hmem => hgrid.length_eq hmem)
    (List.mem_reverse.mp hmem)
  simp only at hrow hcolumn
  have hrows : row + (table.cells.length - row - 1) + 1 = table.rows.toNat := by
    have := hgrid.rows_eq
    omega
  have hcolumns : column + (table.columns.toNat - column - 1) + 1 = table.columns.toNat := by
    omega
  have hcell := @layoutAt_cell? document generation position
    (emptyRows row table.columns.toNat)
    (emptyRows (table.cells.length - row - 1) table.columns.toNat)
    (List.replicate column []) (List.replicate (table.columns.toNat - column - 1) []) []
  rw [← emptyRows_split hrow hcolumn, ← emptyCells_eq hgrid.rows_eq] at hcell
  simp only [emptyRows, List.length_replicate, hrows, hcolumns] at hcell
  simp only [hcell]
  split
  next => 
    rfl
  next => rfl

section Filling

variable {before after : List Element} {columns : Nat}

/-- Filling what is left of a row, from the last cell to the first, leaves the rest of
the table as it is. -/
theorem performs_fillRow (number column : Nat) (row : List Text) (below : List (List Text)) :
    Performs
      ((filledRow number column row).reverse.map (fillRequest (stopOf before) columns))
      (before ++ .table (emptyRows number columns ++
        (List.replicate column [] ++ List.replicate row.length []) :: below) :: after) []
      (before ++ .table (emptyRows number columns ++
        (List.replicate column [] ++ row) :: below) :: after) := by
  -- The hypothesis covers the cells to the right, whose requests come first.
  induction row generalizing column with
  | nil => exact performs_nil _
  | cons text rest ih =>
      have hlater := ih (column + 1)
      rw [List.replicate_succ', List.append_assoc, List.append_assoc, List.singleton_append,
        List.singleton_append, ← List.replicate_succ] at hlater
      by_cases htext : text = []
      · rw [htext, filledRow_cons_nil]
        exact hlater
      · have hinsert : insertText
            (cellStart (stopOf before) (emptyRows number columns) (List.replicate column [])) text
            (before ++ .table (emptyRows number columns ++
              (List.replicate column [] ++ [] :: rest) :: below) :: after) =
            .ok (before ++ .table (emptyRows number columns ++
              (List.replicate column [] ++ splice 0 text [] :: rest) :: below) :: after) :=
          insertText_cell (Int.add_zero _).symm (Nat.le_refl 0) htext
        have hsplice : splice 0 text [] = text := List.append_nil text
        rw [hsplice] at hinsert
        rw [filledRow_cons_of_ne htext, List.reverse_cons, List.map_append]
        exact hlater.append (performs_insertText hinsert)

/-- Filling rows of empty cells, from the last row to the first, leaves every text in
its cell. -/
theorem performs_fillRows (number : Nat) {rows : List (List Text)}
    (hwidth : ∀ row ∈ rows, row.length = columns) :
    Performs
      ((filledFrom number rows).reverse.map (fillRequest (stopOf before) columns))
      (before ++ .table (emptyRows number columns ++ emptyRows rows.length columns) :: after) []
      (before ++ .table (emptyRows number columns ++ rows) :: after) := by
  induction rows generalizing number with
  | nil => exact performs_nil _
  | cons row rest ih =>
      obtain rfl : row.length = columns := hwidth row List.mem_cons_self
      have hlater := ih (number + 1) fun other hmem => hwidth other (List.mem_cons_of_mem _ hmem)
      rw [emptyRows, List.replicate_succ', List.append_assoc, List.append_assoc,
        List.singleton_append, List.singleton_append] at hlater
      rw [filledFrom_cons, List.reverse_append, List.map_append]
      exact hlater.append (performs_fillRow number 0 row rest)

/-- The texts of a grid go into the cells of its empty table. -/
theorem performs_fillGrid {table : TableDescriptor} (hgrid : table.IsGrid) :
    Performs ((filled table.cells).reverse.map (fillRequest (stopOf before) table.columns.toNat))
      (before ++ .table (emptyCells table.rows table.columns) :: after) []
      (before ++ .table table.cells :: after) := by
  have hfill := @performs_fillRows before after _ 0 _ fun _ hmem => hgrid.length_eq hmem
  rw [emptyRows, List.replicate_zero, List.nil_append, List.nil_append] at hfill
  rw [filled_eq, emptyCells_eq hgrid.rows_eq]
  exact hfill

/-- The batch drawn from the empty table of a grid puts every text that can be seen into its
cell, and asks for nothing if there is none. -/
theorem exists_performs_cellBatch {document : MemoryDocument} {table : TableDescriptor}
    (hgrid : table.IsGrid) (generation : Int) (before after : List Element) :
    let elements (cells : List (List Text)) := before ++ .table cells :: after
    let layout := document.layoutAt generation (stopOf before) (emptyCells table.rows table.columns)
    ∃ batch, layout.cellBatch table = .ok batch ∧
      (batch.requests.isEmpty ↔ filled (document.seen table).cells = []) ∧
      Performs batch.requests (elements (emptyCells table.rows table.columns)) []
        (elements (document.seen table).cells) := by
  intro elements layout
  obtain ⟨batch, hbatch, hrequests⟩ := exists_cellBatch layout hgrid.claimed?_eq
  rw [insertions_eq hgrid] at hrequests
  refine ⟨batch, hbatch, ?_, ?_⟩
  · rw [hrequests, List.isEmpty_iff, List.map_eq_nil_iff, List.reverse_eq_nil_iff]
  · rw [hrequests]
    exact performs_fillGrid (hgrid.seen document)

end Filling

/-! ## The header -/

/-- Whether records note bold texts, one record for each text that is not empty. -/
structure NotesBold (records : List StyleRecord) (texts : List Text) : Prop where
  text_eq : records.map StyleRecord.text = texts.filter fun text => !text.isEmpty
  request_eq : ∀ record ∈ records, record.request = "updateTextStyle"
  style_eq : ∀ record ∈ records, record.style = .object [("bold", .bool true)]

theorem notesBold_nil {texts : List Text} (htexts : texts.all List.isEmpty) :
    NotesBold [] texts where
  text_eq := by
    symm
    simpa using htexts
  request_eq := fun _ hmem => absurd hmem List.not_mem_nil
  style_eq := fun _ hmem => absurd hmem List.not_mem_nil

/-- There are records just when some text is not empty. -/
theorem NotesBold.eq_nil_iff {records : List StyleRecord} {texts : List Text}
    (hbold : NotesBold records texts) : records = [] ↔ texts.all List.isEmpty := by
  rw [← List.map_eq_nil_iff (f := StyleRecord.text), hbold.text_eq]
  simp

theorem notesBold_singleton {record : StyleRecord} {text : Text} (htext : text ≠ [])
    (hnoted : record.text = text) (hrequest : record.request = "updateTextStyle")
    (hstyle : record.style = .object [("bold", .bool true)]) : NotesBold [record] [text] where
  text_eq := by simp [hnoted, htext]
  request_eq := fun _ hmem => List.mem_singleton.mp hmem ▸ hrequest
  style_eq := fun _ hmem => List.mem_singleton.mp hmem ▸ hstyle

theorem NotesBold.append {first second : List StyleRecord} {texts others : List Text}
    (hfirst : NotesBold first texts) (hsecond : NotesBold second others) :
    NotesBold (first ++ second) (texts ++ others) where
  text_eq := by rw [List.map_append, List.filter_append, hfirst.text_eq, hsecond.text_eq]
  request_eq := fun record hmem =>
    (List.mem_append.mp hmem).elim (hfirst.request_eq record) (hsecond.request_eq record)
  style_eq := fun record hmem =>
    (List.mem_append.mp hmem).elim (hfirst.style_eq record) (hsecond.style_eq record)

theorem boldRequest_edit (start stop : Int) :
    (TableLayout.boldRequest start stop).edit =
      .style "updateTextStyle" start stop (.object [("bold", .bool true)]) := rfl

/-- The requests that make texts bold, of which the first stands in the given column of
the header. -/
def boldFrom (layout : TableLayout) (column : Nat) (texts : List Text) : List Request :=
  (texts.zipIdx column).filterMap fun (text, column) =>
    if text.isEmpty then none else (layout.cell? 0 column).bind TableLayout.boldCell?

theorem boldRequests_eq (layout : TableLayout) (table : TableDescriptor) :
    layout.boldRequests table = boldFrom layout 0 table.headerCells := rfl

/-- A text whose cell has a place is made bold over the whole of its cell. -/
theorem boldFrom_cons_of_ne {layout : TableLayout} {column : Nat} {position : Int}
    {left : List Text} {text : Text} (htext : text ≠ [])
    (hplace : layout.cell? 0 column = some (cellPlace position [] left text)) (rest : List Text) :
    boldFrom layout column (text :: rest) =
      TableLayout.boldRequest (cellStart position [] left)
          (cellStart position [] left + text.length) ::
        boldFrom layout (column + 1) rest := by
  have hlength : 0 < text.length := List.length_pos_iff.mpr htext
  have hcell : TableLayout.boldCell? (cellPlace position [] left text) =
      some (TableLayout.boldRequest (cellStart position [] left)
        (cellStart position [] left + text.length)) := by
    simp only [TableLayout.boldCell?, cellPlace_paragraphStart, cellPlace_paragraphStop,
      Option.bind_eq_bind, Option.bind_some, Int.add_sub_cancel]
    exact if_pos (by omega)
  rw [boldFrom, List.zipIdx_cons]
  refine List.filterMap_cons_some ?_
  simp only [hplace, Option.bind_some, hcell]
  exact if_neg (by simpa using htext)

/-- Making the texts of a header bold, from some column on, changes no element and notes
these texts, if they can be seen. -/
theorem exists_performs_boldFrom {document : MemoryDocument} {generation : Int}
    {before after : List Element} {below : List (List Text)} (left right : List Text)
    (hshows : ∀ (column : Nat) (text : Text), right[column]? = some text → text ≠ [] →
      document.showsCell (below.length + 1) (left.length + right.length) 0 (left.length + column)) :
    let elements := before ++ .table ((left ++ right) :: below) :: after
    let layout := document.layoutAt generation (stopOf before) ((left ++ right) :: below)
    ∃ records, Performs (boldFrom layout left.length right) elements records elements ∧
      records.length = (boldFrom layout left.length right).length ∧ NotesBold records right := by
  induction right generalizing left with
  | nil => exact ⟨[], performs_nil _, rfl, notesBold_nil rfl⟩
  | cons text rest ih =>
      obtain ⟨records, hperforms, hlength, hbold⟩ := ih (left ++ [text]) (by
        intro column other hother hne
        have hnext := hshows (column + 1) other hother hne
        rw [List.length_append, List.length_singleton]
        rw [List.length_cons] at hnext
        rwa [Nat.add_right_comm, Nat.add_assoc, Nat.add_right_comm left.length 1 column,
          Nat.add_assoc])
      simp only [List.append_assoc, List.singleton_append, List.length_append,
        List.length_singleton] at hperforms hlength
      intro elements layout
      by_cases htext : text = []
      · subst htext
        have hnone : NotesBold [] [[]] := notesBold_nil rfl
        exact ⟨records, hperforms, hlength, hnone.append hbold⟩
      · have hplace : layout.cell? 0 left.length =
            some (cellPlace (stopOf before) [] left text) := by
          have hcell := @layoutAt_cell? document generation (stopOf before) [] below left rest text
          rw [List.length_nil, Nat.zero_add] at hcell
          exact hcell.trans (if_pos (hshows 0 text rfl htext))
        have hnoted : textWithin (cellStart (stopOf before) [] left)
            (cellStart (stopOf before) [] left + text.length) bodyStart elements = text :=
          @textWithin_cell _ _ before after [] below left rest text rfl rfl
        have hlow : 1 ≤ cellStart (stopOf before) [] left := by
          rw [cellStart, stopOf_eq]
          omega
        have hpositive : 0 < text.length := List.length_pos_iff.mpr htext
        have hhigh : cellStart (stopOf before) [] left + text.length ≤ stopOf elements := by
          simp only [elements, cellStart, stopOf_eq, elementsSize_append, elementsSize_cons,
            size_table, rowsSize_nil, rowsSize_cons, cellsSize_append, cellsSize_cons, cellSize]
          omega
        have hstyle := performs_style (boldRequest_edit _ _) hlow (by omega) hhigh
        rw [boldFrom_cons_of_ne htext hplace]
        exact ⟨_, hstyle.append hperforms, congrArg (· + 1) hlength,
          (notesBold_singleton htext hnoted rfl rfl).append hbold⟩

/-- Texts of hidden cells are left out. -/
theorem boldFrom_seenRow {layout : TableLayout} {column width : Nat} {texts : List Text}
    (hhidden : ∀ place, width ≤ place → place < column + texts.length →
      layout.cell? 0 place = none) :
    boldFrom layout column (seenRow (width - column) texts) = boldFrom layout column texts := by
  induction texts generalizing column with
  | nil => cases width - column <;> rfl
  | cons text rest ih =>
      rw [List.length_cons] at hhidden
      have hrest := @ih (column + 1) fun place hlow hhigh => hhidden place hlow (by omega)
      -- A cell that can be seen keeps its text; a hidden one is empty and has no place either.
      by_cases hcolumn : column < width
      · have hwidth : width - column = (width - (column + 1)) + 1 := by omega
        rw [hwidth, seenRow, boldFrom, boldFrom, List.zipIdx_cons, List.zipIdx_cons,
          List.filterMap_cons, List.filterMap_cons]
        rw [boldFrom, boldFrom] at hrest
        rw [hrest]
      · have hwidth : width - column = 0 := by omega
        have hnext : width - (column + 1) = 0 := by omega
        have hnone := hhidden column (by omega) (by omega)
        rw [hnext, boldFrom, boldFrom] at hrest
        rw [hwidth, seenRow, boldFrom, boldFrom, List.zipIdx_cons, List.zipIdx_cons,
          List.filterMap_cons, List.filterMap_cons, hrest]
        simp [hnone]

/-- A text that can be seen stands in one of the first cells. -/
theorem lt_of_seenRow_getElem? {width column : Nat} {row : List Text} {text : Text}
    (hget : (seenRow width row)[column]? = some text) (htext : text ≠ []) : column < width := by
  induction row generalizing width column with
  | nil => cases width <;> exact absurd hget (by simp [seenRow])
  | cons first rest ih =>
      cases width with
      | zero =>
          cases column with
          | zero => exact absurd (Option.some.inj hget).symm htext
          | succ column => exact absurd (ih hget) (Nat.not_lt_zero _)
      | succ width =>
          cases column with
          | zero => exact Nat.succ_pos _
          | succ column => exact Nat.succ_lt_succ (ih hget)

/-- The first row is shown as far as any row is, unless all rows are hidden. -/
theorem seenRows_cons (width height : Nat) (row : List Text) (rest : List (List Text)) :
    seenRows width height (row :: rest) =
      seenRow (if 0 < height then width else 0) row :: seenRows width (height - 1) rest := by
  cases height <;> rfl

/-- How many cells of the header can be seen when a table is in a document. -/
def MemoryDocument.headerWidth (document : MemoryDocument) (table : TableDescriptor) : Nat :=
  if 0 < shown document.visibleRows table.rows.toNat then
    shown document.visibleColumns table.columns.toNat
  else 0

section Header

variable {document : MemoryDocument} {table : TableDescriptor} {header : List Text}
  {below : List (List Text)}

/-- A cell of the header can be seen exactly when it is one of the first ones. -/
theorem showsCell_header (document : MemoryDocument) (table : TableDescriptor) (column : Nat) :
    document.showsCell table.rows.toNat table.columns.toNat 0 column =
      decide (column < document.headerWidth table) := by
  rw [showsCell, headerWidth]
  split
  next hpos => simp [hpos]
  next hnone => simp [hnone]

theorem seen_cells_eq (document : MemoryDocument) (hcells : table.cells = header :: below) :
    (document.seen table).cells = seenRow (document.headerWidth table) header ::
      seenRows (shown document.visibleColumns table.columns.toNat)
        (shown document.visibleRows table.rows.toNat - 1) below := by
  rw [MemoryDocument.seen, hcells, seenRows_cons, headerWidth]

theorem seen_headerCells_eq (document : MemoryDocument) (hcells : table.cells = header :: below) :
    (document.seen table).headerCells = seenRow (document.headerWidth table) header := by
  rw [headerCells, seen_cells_eq document hcells, List.headD_cons]

/-- A grid has a header of its width, and states how many rows there are with it. -/
theorem TableDescriptor.IsGrid.sizes_eq (hgrid : table.IsGrid)
    (hcells : table.cells = header :: below) :
    below.length + 1 = table.rows.toNat ∧ header.length = table.columns.toNat := by
  refine ⟨?_, hgrid.length_eq (by rw [hcells]; exact List.mem_cons_self)⟩
  have hlength := hgrid.rows_eq
  rw [hcells, List.length_cons] at hlength
  omega

/-- A cell of the header that cannot be seen has no place in the layout. -/
theorem cell?_header_eq_none (hgrid : table.IsGrid) (hcells : table.cells = header :: below)
    (generation position : Int) {place : Nat} (hlow : document.headerWidth table ≤ place)
    (hhigh : place < header.length) :
    (document.layoutAt generation position (document.seen table).cells).cell? 0 place = none := by
  obtain ⟨hrows, hcolumns⟩ := hgrid.sizes_eq hcells
  have hseen := seen_cells_eq document hcells
  generalize hrow : seenRow (document.headerWidth table) header = row at hseen
  have hlength : row.length = header.length := by rw [← hrow, length_seenRow]
  have hsplit : row = row.take place ++ row[place] :: row.drop (place + 1) := by
    rw [List.getElem_cons_drop, List.take_append_drop]
  have hleft : (row.take place).length = place := List.length_take_of_le (by omega)
  have hright : place + (row.drop (place + 1)).length + 1 = table.columns.toNat := by
    rw [List.length_drop]
    omega
  have hcell := @layoutAt_cell? document generation position []
    (seenRows (shown document.visibleColumns table.columns.toNat)
      (shown document.visibleRows table.rows.toNat - 1) below)
    (row.take place) (row.drop (place + 1)) row[place]
  rw [← hsplit, List.nil_append, ← hseen, List.length_nil, Nat.zero_add, length_seenRows, hrows,
    hleft, hright, showsCell_header, decide_eq_false (Nat.not_lt_of_le hlow)] at hcell
  exact hcell

/-- Only the texts of the header that can be seen are made bold. -/
theorem boldRequests_seen (hgrid : table.IsGrid) (hcells : table.cells = header :: below)
    (generation position : Int) :
    let layout := document.layoutAt generation position (document.seen table).cells
    layout.boldRequests table =
      boldFrom layout 0 (seenRow (document.headerWidth table) header) := by
  intro layout
  have hhidden : ∀ place, document.headerWidth table ≤ place → place < 0 + header.length →
      layout.cell? 0 place = none := fun place hlow hhigh =>
    cell?_header_eq_none hgrid hcells generation position hlow (by omega)
  rw [boldRequests_eq, headerCells, hcells, List.headD_cons, ← boldFrom_seenRow hhidden,
    Nat.sub_zero]

/-- The header of a table whose visible texts are in their cells is made bold without a
change of any element, and every text of it that can be seen is noted. -/
theorem exists_performs_boldRequests (hgrid : table.IsGrid) (generation : Int)
    (before after : List Element) :
    let cells := (document.seen table).cells
    let layout := document.layoutAt generation (stopOf before) cells
    let elements := before ++ .table cells :: after
    ∃ records, Performs (layout.boldRequests table) elements records elements ∧
      records.length = (layout.boldRequests table).length ∧
      NotesBold records (document.seen table).headerCells := by
  intro cells layout elements
  obtain ⟨header, below, hcells⟩ := List.exists_cons_of_ne_nil hgrid.cells_ne_nil
  obtain ⟨hrows, hcolumns⟩ := hgrid.sizes_eq hcells
  have hseen := seen_cells_eq document hcells
  have hbold : layout.boldRequests table =
      boldFrom layout 0 (seenRow (document.headerWidth table) header) :=
    boldRequests_seen hgrid hcells generation (stopOf before)
  rw [hbold, seen_headerCells_eq document hcells]
  simp only [elements, layout, cells, hseen]
  refine exists_performs_boldFrom [] (seenRow (document.headerWidth table) header) ?_
  intro column text htext hne
  simp only [length_seenRows, List.length_nil, Nat.zero_add, length_seenRow, hrows, hcolumns,
    showsCell_header, decide_eq_true_eq]
  exact lt_of_seenRow_getElem? htext hne

end Header

end DocPress
