import Mathlib.Data.List.Forall2
import DocPress.Proofs.Tables.Placement

/-!
# What the descriptors of a compilation promise

Whoever inserts the tables of a compilation knows nothing but their descriptors. Every
table block with a column gives one, in the order of the source. It has the shape of the
block, and its anchor is an empty line of the text that no other table has.
-/

namespace DocPress

/-! ## One table -/

namespace TableDescriptor

theorem foldl_max_pos_iff (first : Nat) (lengths : List Nat) :
    0 < lengths.foldl max first ↔ 0 < first ∨ ∃ length ∈ lengths, 0 < length := by
  induction lengths generalizing first with
  | nil => simp
  | cons length rest ih =>
      simp only [List.foldl_cons, ih, List.exists_mem_cons_iff, ← or_assoc]
      apply or_congr_left
      omega

/-- A table has a column as soon as one of its rows has a cell. -/
theorem columnCount_pos_iff (header : List (List Inline)) (rows : List (List (List Inline))) :
    0 < columnCount header rows ↔ header ≠ [] ∨ ∃ row ∈ rows, row ≠ [] := by
  unfold columnCount
  cases header with
  | nil => simp [foldl_max_pos_iff, ← List.length_pos_iff]
  | cons cell rest => simp

/-- A table that has a column has a descriptor. -/
theorem ofRows?_of_pos {header : List (List Inline)} {rows : List (List (List Inline))}
    (hpos : 0 < columnCount header rows) :
    ofRows? header rows =
      some
        { rows := (rows.length + 1 : Nat)
          columns := columnCount header rows
          cells := (header :: rows).map fun row =>
            fitRow (columnCount header rows)
              (row.map fun cell => decodeEntities (plainText cell)) } := by
  rw [ofRows?, if_neg (Nat.ne_of_gt hpos)]
  simp only [List.length_map, List.length_cons]

/-- A row that is too short is filled up with empty cells, and one that is too long is cut. -/
theorem fitRow_getElem? {columns column : Nat} (row : List Text) (hcolumn : column < columns) :
    (fitRow columns row)[column]? = some (row[column]?.getD []) := by
  unfold fitRow
  by_cases hlength : column < row.length
  · rw [List.getElem?_append_left (by rw [List.length_take]; omega),
      List.getElem?_take_of_lt hcolumn, List.getElem?_eq_getElem hlength, Option.getD_some]
  · rw [List.getElem?_append_right (by rw [List.length_take]; omega),
      List.getElem?_replicate_of_lt (by rw [List.length_take]; omega),
      List.getElem?_eq_none (by omega), Option.getD_none]

end TableDescriptor

namespace Block

/-- Whether a block is a table with at least one column. -/
def isTabular (block : Block) : Bool :=
  block.kind = .table && (!block.header.isEmpty || block.rows.any fun row => !row.isEmpty)

/-- A block gives a table to insert just when it is a table with a column. -/
theorem isTabular_iff (block : Block) :
    block.isTabular ↔
      block.kind = .table ∧ 0 < TableDescriptor.columnCount block.header block.rows := by
  rw [TableDescriptor.columnCount_pos_iff]
  simp [isTabular]

/-- The text of a cell of a table block, of which the header is the first row; a cell that
the block does not have is empty. -/
def cellText (block : Block) (row column : Nat) : Text :=
  (((block.header :: block.rows)[row]?.bind (·[column]?)).map fun cell =>
    decodeEntities (plainText cell)).getD []

end Block

/-- Whether a descriptor tells of a table block how many rows and columns it has, and the
text of every cell. -/
structure TableDescriptor.Describes (table : TableDescriptor) (block : Block) : Prop where
  rows_eq : table.rows = 1 + block.rows.length
  columns_eq : table.columns = columnCount block.header block.rows
  cell_eq : ∀ row column : Nat, row < table.rows → column < table.columns →
    table.cells[row]?.bind (·[column]?) = some (block.cellText row column)

namespace Block

/-- A table block with a column gives a descriptor of it. -/
theorem exists_render_table {block : Block} (htabular : block.isTabular) (start : Int) :
    ∃ table, (block.render start).table = some table ∧ table.Describes block := by
  obtain ⟨hkind, hpos⟩ := block.isTabular_iff.mp htabular
  unfold render
  simp only [hkind, renderTable, TableDescriptor.ofRows?_of_pos hpos]
  refine ⟨_, rfl, ⟨?_, rfl, ?_⟩⟩
  · simp only
    omega
  · intro row column hrow hcolumn
    have hrow : row < (block.header :: block.rows).length := by
      simp only [List.length_cons] at hrow ⊢
      omega
    have hcolumn : column < TableDescriptor.columnCount block.header block.rows := by
      simp only at hcolumn
      omega
    simp only [cellText, List.getElem?_map, List.getElem?_eq_getElem hrow, Option.map_some,
      Option.bind_some, TableDescriptor.fitRow_getElem? _ hcolumn]

/-- Any other block gives no table. -/
theorem render_table_eq_none {block : Block} (htabular : ¬ block.isTabular) (start : Int) :
    (block.render start).table = none := by
  unfold render
  cases hkind : block.kind with
  | table =>
      have hnone : TableDescriptor.columnCount block.header block.rows = 0 := by
        rw [isTabular_iff] at htabular
        simp only [hkind, true_and, Nat.not_lt, Nat.le_zero] at htabular
        exact htabular
      simp [renderTable, TableDescriptor.ofRows?, hnone]
  | _ => rfl

end Block

/-! ## The tables of a compilation -/

/-- The descriptors of a compilation are those of the table blocks, one for each. -/
theorem compile_tables_describes (blocks : List Block) (start : Int) :
    List.Forall₂ TableDescriptor.Describes (compile blocks start).tables
      (blocks.filter Block.isTabular) := by
  induction blocks generalizing start with
  | nil => exact .nil
  | cons block rest ih =>
      rw [compile_cons_tables]
      by_cases htabular : block.isTabular
      · obtain ⟨table, htable, hdescribes⟩ := Block.exists_render_table htabular start
        rw [htable, List.filter_cons_of_pos htabular]
        exact .cons hdescribes (ih _)
      · rw [Block.render_table_eq_none htabular, List.filter_cons_of_neg htabular]
        exact ih _

/-- The text of a compilation ends with a line end if there is any. -/
theorem compile_text_endsLine (blocks : List Block) (start : Int) :
    (compile blocks start).text = [] ∨ ∃ line, (compile blocks start).text = line ++ ['\n'] := by
  have hfills : FillsLines start ((renderBlocks start blocks).flatMap BlockOutput.text)
      ((renderBlocks start blocks).flatMap BlockOutput.operations) := by
    induction blocks generalizing start with
    | nil => exact .nothing
    | cons block rest ih => exact (block.render_fillsLines start).append (ih _)
  exact hfills.eq_nil_or_endsLine

/-- Whether a position is an empty line of a text that begins at `start`. -/
def IsEmptyLine (start : Int) (text : Text) (position : Int) : Prop :=
  ∃ before after, text = before ++ '\n' :: after ∧ position = start + units before ∧
    (before = [] ∨ ∃ line, before = line ++ ['\n'])

/-- A table has the place of its block, which is an empty line. -/
theorem isEmptyLine_of_mem_compile_tables {blocks : List Block} {start : Int}
    {table : TableDescriptor} (hmem : table ∈ (compile blocks start).tables) :
    ∃ anchor, table.anchor = some anchor ∧
      IsEmptyLine start (compile blocks start).text anchor := by
  -- The text before the anchor is that of the blocks before the table.
  obtain ⟨output, houtput, htable⟩ := List.mem_filterMap.mp hmem
  obtain ⟨index, hindex⟩ := List.mem_iff_getElem?.mp houtput
  rw [renderBlocks_getElem?] at hindex
  obtain ⟨after, htext⟩ := compile_text_split hindex
  obtain ⟨block, _, rfl⟩ := Option.map_eq_some_iff.mp hindex
  obtain ⟨hanchor, _, hline⟩ := Block.render_table htable
  rw [hline, List.append_assoc] at htext
  exact ⟨_, hanchor, _, after, htext, rfl, compile_text_endsLine _ _⟩

/-- Each table is anchored behind those before it. -/
theorem compile_anchors_ascending (blocks : List Block) (start : Int) :
    ((compile blocks start).tables.filterMap TableDescriptor.anchor).Pairwise (· < ·) := by
  rw [filterMap_anchor_eq fun table hmem => exists_anchor_of_mem_compile hmem]
  exact List.pairwise_map.mpr (compile_tables_ascending start blocks)

/-- The batch that fills a grid can be made for every layout, whatever cells that one
has. -/
theorem TableDescriptor.IsGrid.exists_cellBatch {table : TableDescriptor} (hgrid : table.IsGrid)
    (layout : TableLayout) : ∃ batch, layout.cellBatch table = .ok batch := by
  rw [TableLayout.cellBatch, hgrid.claimed?_eq]
  exact ⟨_, rfl⟩

/-- A compilation describes exactly the table blocks that have a column, in their order.
The anchors of the descriptors increase, and each of them is an empty line of the text.
Every descriptor has a column, as many rows of cells as it says, with as many cells in
each of them as it says; so its cells can be filled at any layout, and its header is its
first row. -/
theorem compile_tables_are_sound (blocks : List Block) (start : Int) :
    let result := compile blocks start
    List.Forall₂ TableDescriptor.Describes result.tables (blocks.filter Block.isTabular) ∧
    (result.tables.filterMap TableDescriptor.anchor).Pairwise (· < ·) ∧
    ∀ table ∈ result.tables,
      (∃ anchor, table.anchor = some anchor ∧ IsEmptyLine start result.text anchor) ∧
      1 ≤ table.columns ∧ table.rows = table.cells.length ∧
      (∀ row ∈ table.cells, (row.length : Int) = table.columns) ∧
      (∀ layout : TableLayout, ∃ batch, layout.cellBatch table = .ok batch) ∧
      table.cells[0]? = some table.headerCells := by
  refine ⟨compile_tables_describes blocks start, compile_anchors_ascending blocks start, ?_⟩
  intro table hmem
  obtain ⟨_, _, _, _, hgrid⟩ := compile_tables_anchored hmem
  obtain ⟨header, below, hcells⟩ := List.exists_cons_of_ne_nil hgrid.cells_ne_nil
  refine ⟨isEmptyLine_of_mem_compile_tables hmem, hgrid.columns_pos, hgrid.rows_eq, hgrid.width,
    hgrid.exists_cellBatch, ?_⟩
  rw [TableDescriptor.headerCells, hcells]
  rfl

end DocPress
