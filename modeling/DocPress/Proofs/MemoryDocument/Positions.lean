import DocPress.Proofs.MemoryDocument.Paragraphs

/-!
# Positions of a document in memory

Where a paragraph or a cell of a document stands follows from the sizes of what stands
before it. An edit at such a position changes that paragraph or that cell and nothing
else, and the text noted for the range of a cell is the text of that cell.
-/

namespace DocPress.MemoryDocument

/-- Where the text of a cell begins, in a table that begins at a position: after the
rows above the cell and the cells to its left. -/
def cellStart (position : Int) (above : List (List Text)) (left : List Text) : Int :=
  position + 1 + rowsSize above + 1 + cellsSize left + 1

section Sizes

@[simp]
theorem cellsSize_nil : cellsSize [] = 0 := rfl

@[simp]
theorem cellsSize_cons (cell : Text) (rest : List Text) :
    cellsSize (cell :: rest) = cellSize cell + cellsSize rest := rfl

@[simp]
theorem cellsSize_append (first second : List Text) :
    cellsSize (first ++ second) = cellsSize first + cellsSize second := by
  induction first with
  | nil => simp
  | cons cell rest ih => simp [ih, Nat.add_assoc]

theorem rowSize_eq (row : List Text) : rowSize row = 1 + cellsSize row := rfl

@[simp]
theorem rowsSize_nil : rowsSize [] = 0 := rfl

@[simp]
theorem rowsSize_cons (row : List Text) (rest : List (List Text)) :
    rowsSize (row :: rest) = 1 + cellsSize row + rowsSize rest := rfl

@[simp]
theorem rowsSize_append (first second : List (List Text)) :
    rowsSize (first ++ second) = rowsSize first + rowsSize second := by
  induction first with
  | nil => simp
  | cons row rest ih => simp [ih, Nat.add_assoc]

@[simp]
theorem size_paragraph (text : Text) : (Element.paragraph text).size = text.length := rfl

@[simp]
theorem size_table (cells : List (List Text)) :
    (Element.table cells).size = rowsSize cells + 2 := rfl

end Sizes

section Insertions

variable {index position : Int} {offset : Nat} {inserted : Text}

/-- An index inside a paragraph finds that paragraph. -/
theorem replaceParagraph?_split {before after : List Element} {line : Text}
    (replacement : Text → Nat → List Element)
    (hindex : index = position + elementsSize before + offset) (hoffset : offset < line.length) :
    replaceParagraph? index replacement position (before ++ .paragraph line :: after) =
      some (before ++ (replacement line offset ++ after)) := by
  induction before generalizing position with
  | nil =>
      simp only [elementsSize_nil, Int.natCast_zero, Int.add_zero] at hindex
      have hplace : (index - position).toNat = offset := by omega
      rw [List.nil_append, replaceParagraph?, if_pos (by omega), hplace, List.nil_append]
  | cons element rest ih =>
      cases element with
      | paragraph text =>
          simp only [elementsSize_cons, size_paragraph] at hindex
          rw [List.cons_append, replaceParagraph?, if_neg (by omega), ih (by omega)]
          rfl
      | table cells =>
          simp only [elementsSize_cons, size_table] at hindex
          rw [List.cons_append, replaceParagraph?, ih (by omega)]
          rfl

/-- No paragraph stands before the elements. -/
theorem replaceParagraph?_eq_none_of_lt {elements : List Element}
    (replacement : Text → Nat → List Element) (hindex : index < position) :
    replaceParagraph? index replacement position elements = none := by
  induction elements generalizing position with
  | nil => rfl
  | cons element rest ih =>
      cases element with
      | paragraph text =>
          rw [replaceParagraph?, if_neg (by omega), ih (by omega)]
          rfl
      | table cells =>
          rw [replaceParagraph?, ih (by omega)]
          rfl

/-- An index inside a table finds no paragraph. -/
theorem replaceParagraph?_table {before after : List Element} {cells : List (List Text)}
    (replacement : Text → Nat → List Element)
    (hlow : position + elementsSize before ≤ index)
    (hhigh : index < position + elementsSize before + (rowsSize cells + 2)) :
    replaceParagraph? index replacement position (before ++ .table cells :: after) = none := by
  induction before generalizing position with
  | nil =>
      simp only [elementsSize_nil, Int.natCast_zero, Int.add_zero] at hhigh
      rw [List.nil_append, replaceParagraph?, replaceParagraph?_eq_none_of_lt _ (by omega)]
      rfl
  | cons element rest ih =>
      cases element with
      | paragraph text =>
          simp only [elementsSize_cons, size_paragraph] at hlow hhigh
          rw [List.cons_append, replaceParagraph?, if_neg (by omega), ih (by omega) (by omega)]
          rfl
      | table others =>
          simp only [elementsSize_cons, size_table] at hlow hhigh
          rw [List.cons_append, replaceParagraph?, ih (by omega) (by omega)]
          rfl

/-- An index behind some cells is in none of them. -/
theorem insertInCells?_eq_none {cells : List Text} (hindex : position + cellsSize cells ≤ index) :
    insertInCells? index inserted position cells = none := by
  induction cells generalizing position with
  | nil => rfl
  | cons cell rest ih =>
      rw [cellsSize_cons] at hindex
      rw [insertInCells?, if_neg (by omega), ih (by omega)]
      rfl

/-- An index in the text of a cell, its end included, finds that cell. -/
theorem insertInCells?_split {left right : List Text} {cell : Text}
    (hindex : index = position + cellsSize left + 1 + offset) (hoffset : offset ≤ cell.length) :
    insertInCells? index inserted position (left ++ cell :: right) =
      some (left ++ splice offset inserted cell :: right) := by
  induction left generalizing position with
  | nil =>
      rw [cellsSize_nil] at hindex
      have hplace : (index - (position + 1)).toNat = offset := by omega
      rw [List.nil_append, insertInCells?, if_pos (by rw [cellSize]; omega), hplace]
      rfl
  | cons other rest ih =>
      rw [cellsSize_cons] at hindex
      rw [List.cons_append, insertInCells?, if_neg (by omega), ih (by omega)]
      rfl

theorem insertInRows?_eq_none {rows : List (List Text)}
    (hindex : position + rowsSize rows ≤ index) :
    insertInRows? index inserted position rows = none := by
  induction rows generalizing position with
  | nil => rfl
  | cons row rest ih =>
      rw [rowsSize_cons] at hindex
      rw [insertInRows?, insertInCells?_eq_none (by omega), ih (by rw [rowSize_eq]; omega)]
      rfl

/-- An index in the text of a cell finds that cell in its row. -/
theorem insertInRows?_split {above below : List (List Text)} {left right : List Text} {cell : Text}
    (hindex : index = position + rowsSize above + 1 + cellsSize left + 1 + offset)
    (hoffset : offset ≤ cell.length) :
    insertInRows? index inserted position (above ++ (left ++ cell :: right) :: below) =
      some (above ++ (left ++ splice offset inserted cell :: right) :: below) := by
  induction above generalizing position with
  | nil =>
      rw [rowsSize_nil] at hindex
      rw [List.nil_append, insertInRows?, insertInCells?_split (by omega) hoffset]
      rfl
  | cons row rest ih =>
      rw [rowsSize_cons] at hindex
      rw [List.cons_append, insertInRows?, insertInCells?_eq_none (by omega),
        ih (by rw [rowSize_eq]; omega)]
      rfl

/-- An index in the text of a cell finds that cell in its table. -/
theorem insertInTable?_split {before after : List Element} {above below : List (List Text)}
    {left right : List Text} {cell : Text}
    (hindex : index = position + elementsSize before + 1 + rowsSize above + 1 + cellsSize left + 1 +
      offset)
    (hoffset : offset ≤ cell.length) :
    insertInTable? index inserted position
        (before ++ .table (above ++ (left ++ cell :: right) :: below) :: after) =
      some (before ++
        .table (above ++ (left ++ splice offset inserted cell :: right) :: below) :: after) := by
  induction before generalizing position with
  | nil =>
      rw [elementsSize_nil] at hindex
      rw [List.nil_append, insertInTable?, insertInRows?_split (by omega) hoffset]
      rfl
  | cons element rest ih =>
      cases element with
      | paragraph text =>
          simp only [elementsSize_cons, size_paragraph] at hindex
          rw [List.cons_append, insertInTable?, ih (by omega)]
          rfl
      | table cells =>
          simp only [elementsSize_cons, size_table] at hindex
          rw [List.cons_append, insertInTable?, insertInRows?_eq_none (by omega), ih (by omega)]
          rfl

/-- Text inserted at a place of a cell goes into that cell. -/
theorem insertText_cell {before after : List Element} {above below : List (List Text)}
    {left right : List Text} {cell : Text}
    (hindex : index = cellStart (stopOf before) above left + offset)
    (hoffset : offset ≤ cell.length) (hinserted : inserted ≠ []) :
    insertText index inserted
        (before ++ .table (above ++ (left ++ cell :: right) :: below) :: after) =
      .ok (before ++
        .table (above ++ (left ++ splice offset inserted cell :: right) :: below) :: after) := by
  rw [cellStart, stopOf_eq] at hindex
  -- Paragraphs are tried first, but none of them reaches into the table.
  have hparagraph (replacement : Text → Nat → List Element) :
      replaceParagraph? index replacement bodyStart
        (before ++ .table (above ++ (left ++ cell :: right) :: below) :: after) = none := by
    apply replaceParagraph?_table
    · rw [bodyStart]
      omega
    · simp only [bodyStart, rowsSize_append, rowsSize_cons, cellsSize_append, cellsSize_cons,
        cellSize]
      omega
  rw [insertText, if_neg (by simpa using hinserted)]
  simp only [hparagraph]
  rw [insertInTable?_split (by rw [bodyStart]; omega) hoffset]

/-- Text inserted at a place of a paragraph is split into paragraphs together with that
paragraph. -/
theorem insertText_paragraph {before after : List Element} {line : Text}
    (hparagraphs : ∀ text, .paragraph text ∈ before ++ .paragraph line :: after →
      IsParagraph text)
    (hindex : index = stopOf before + offset) (hoffset : offset < line.length)
    (hinserted : inserted ≠ []) (hlines : IsLines (splice offset inserted line)) :
    insertText index inserted (before ++ .paragraph line :: after) =
      .ok (before ++ (paragraphs (splice offset inserted line) ++ after)) := by
  have hbefore : ∀ text, .paragraph text ∈ before → IsParagraph text :=
    fun text hmem => hparagraphs text (List.mem_append_left _ hmem)
  have hafter : ∀ text, .paragraph text ∈ after → IsParagraph text :=
    fun text hmem => hparagraphs text (List.mem_append_right _ (List.mem_cons_of_mem _ hmem))
  have hall : ∀ text, .paragraph text ∈
      before ++ ([.paragraph (splice offset inserted line)] ++ after) → IsLines text := by
    intro text hmem
    rcases List.mem_append.mp hmem with hmem | hmem
    · exact (hbefore text hmem).isLines
    rcases List.mem_cons.mp hmem with heq | hmem
    · rw [Element.paragraph.inj heq]
      exact hlines
    · exact (hafter text hmem).isLines
  rw [insertText, if_neg (by simpa using hinserted)]
  simp only [replaceParagraph?_split _ hindex hoffset]
  rw [splitAnew_eq .nil hall, paragraphs_nil, List.nil_append, List.flatMap_append,
    List.flatMap_append, flatMap_split_eq_self hbefore, flatMap_split_eq_self hafter]
  simp [Element.split]

/-- A table inserted at a place of some paragraphs breaks the line there in two. -/
theorem insertTable_paragraphs {before after : List Element} {text : Text} (hlines : IsLines text)
    (hindex : index = stopOf before + offset) (hoffset : offset < text.length)
    (rows columns : Int) :
    insertTable index rows columns (before ++ paragraphs text ++ after) =
      .ok (before ++ paragraphs (text.take offset ++ ['\n']) ++
        .table (emptyCells rows columns) :: (paragraphs (text.drop offset) ++ after)) := by
  -- The place is in one of the paragraphs; those around it are not touched.
  obtain ⟨first, line, last, place, rfl, hfirst, hline, hlast, rfl, hplace⟩ :=
    hlines.exists_paragraph_at hoffset
  rw [stopOf_eq] at hindex
  have hsplit : before ++ paragraphs (first ++ (line ++ last)) ++ after =
      (before ++ paragraphs first) ++ .paragraph line :: (paragraphs last ++ after) := by
    rw [paragraphs_append hfirst, paragraphs_append hline.isLines, hline.paragraphs_eq]
    simp
  have hfront : paragraphs ((first ++ (line ++ last)).take (first.length + place) ++ ['\n']) =
      paragraphs first ++ [.paragraph (line.take place ++ ['\n'])] := by
    rw [List.take_length_add_append, List.take_append_of_le_length (Nat.le_of_lt hplace),
      List.append_assoc, paragraphs_append hfirst, (hline.take hplace).paragraphs_eq]
  have hback : paragraphs ((first ++ (line ++ last)).drop (first.length + place)) =
      .paragraph (line.drop place) :: paragraphs last := by
    rw [List.drop_length_add_append, List.drop_append_of_le_length (Nat.le_of_lt hplace),
      paragraphs_append (hline.drop hplace).isLines, (hline.drop hplace).paragraphs_eq]
    rfl
  have hposition : index = bodyStart + elementsSize (before ++ paragraphs first) + place := by
    rw [elementsSize_append, hfirst.elementsSize_paragraphs, bodyStart]
    omega
  rw [insertTable, hsplit, replaceParagraph?_split _ hposition hplace, hfront, hback]
  simp

end Insertions

section Ranges

variable {start stop position : Int}

/-- The characters in a range are those that its bounds cut out. -/
theorem charsAt_isWithin (start stop position : Int) (text : Text) :
    charsAt (isWithin start stop) position text =
      (text.take (stop - position).toNat).drop (start - position).toNat := by
  induction text generalizing position with
  | nil => simp [charsAt]
  | cons c rest ih =>
      rw [charsAt, ih (position + 1)]
      -- Whether the range begins before this character matters only if it does not stop before
      -- it.
      by_cases hstop : position < stop
      · have htake : (stop - position).toNat = (stop - (position + 1)).toNat + 1 := by omega
        rw [htake, List.take_succ_cons]
        by_cases hstart : start ≤ position
        · have hhere : (start - position).toNat = 0 := by omega
          have hnext : (start - (position + 1)).toNat = 0 := by omega
          simp [isWithin, hstop, hstart, hhere, hnext]
        · have hdrop : (start - position).toNat = (start - (position + 1)).toNat + 1 := by omega
          simp [isWithin, hstart, hdrop]
      · have hhere : (stop - position).toNat = 0 := by omega
        have hnext : (stop - (position + 1)).toNat = 0 := by omega
        simp [isWithin, hstop, hhere, hnext]

/-- A range that stops before a text or begins behind it has none of its characters. -/
theorem charsAt_eq_nil {text : Text} (hrange : stop ≤ position ∨ position + text.length ≤ start) :
    charsAt (isWithin start stop) position text = [] := by
  rw [charsAt_isWithin]
  rcases hrange with hstop | hstart
  · have hnone : (stop - position).toNat = 0 := by omega
    rw [hnone, List.take_zero, List.drop_nil]
  · apply List.drop_eq_nil_of_le
    rw [List.length_take]
    omega

theorem cellsWithin_eq_nil {cells : List Text}
    (hrange : stop ≤ position ∨ position + cellsSize cells ≤ start) :
    cellsWithin start stop position cells = [] := by
  induction cells generalizing position with
  | nil => rfl
  | cons cell rest ih =>
      rw [cellsSize_cons] at hrange
      rw [cellsWithin, ih (by omega), charsAt_eq_nil, List.append_nil]
      rw [List.length_append, List.length_singleton]
      rw [cellSize] at hrange
      omega

theorem rowsWithin_eq_nil {rows : List (List Text)}
    (hrange : stop ≤ position ∨ position + rowsSize rows ≤ start) :
    rowsWithin start stop position rows = [] := by
  induction rows generalizing position with
  | nil => rfl
  | cons row rest ih =>
      rw [rowsSize_cons] at hrange
      rw [rowsWithin, ih (by rw [rowSize_eq]; omega), cellsWithin_eq_nil (by omega),
        List.append_nil]

/-- A range apart from some elements has nothing of them. -/
theorem textWithin_eq_nil {elements : List Element}
    (hrange : stop ≤ position ∨ position + elementsSize elements ≤ start) :
    textWithin start stop position elements = [] := by
  induction elements generalizing position with
  | nil => rfl
  | cons element rest ih =>
      rw [elementsSize_cons] at hrange
      cases element with
      | paragraph text =>
          rw [size_paragraph] at hrange
          rw [textWithin, ih (by omega), charsAt_eq_nil (by omega), List.append_nil]
      | table cells =>
          rw [size_table] at hrange
          rw [textWithin, ih (by omega), rowsWithin_eq_nil (by omega), List.append_nil]

theorem cellsWithin_append (left right : List Text) :
    cellsWithin start stop position (left ++ right) =
      cellsWithin start stop position left ++
        cellsWithin start stop (position + cellsSize left) right := by
  induction left generalizing position with
  | nil => simp [cellsWithin]
  | cons cell rest ih => simp [cellsWithin, ih, Int.add_assoc]

theorem rowsWithin_append (above below : List (List Text)) :
    rowsWithin start stop position (above ++ below) =
      rowsWithin start stop position above ++
        rowsWithin start stop (position + rowsSize above) below := by
  induction above generalizing position with
  | nil => simp [rowsWithin]
  | cons row rest ih => simp [rowsWithin, ih, rowSize_eq, Int.add_assoc]

/-- Of two parts a range has what it has of each. -/
theorem textWithin_append (before after : List Element) :
    textWithin start stop position (before ++ after) =
      textWithin start stop position before ++
        textWithin start stop (position + elementsSize before) after := by
  induction before generalizing position with
  | nil => simp [textWithin]
  | cons element rest ih =>
      cases element with
      | paragraph text => simp [textWithin, ih, Int.add_assoc]
      | table cells => simp [textWithin, ih, Int.add_assoc]

/-- The text in the range of a cell is the text of that cell. -/
theorem textWithin_cell {before after : List Element} {above below : List (List Text)}
    {left right : List Text} {cell : Text}
    (hstart : start = cellStart (stopOf before) above left) (hstop : stop = start + cell.length) :
    textWithin start stop bodyStart
        (before ++ .table (above ++ (left ++ cell :: right) :: below) :: after) = cell := by
  rw [cellStart] at hstart
  -- From the inside out: the row of the cell, then the table, then the document.
  have hcells : cellsWithin start stop (stopOf before + 1 + rowsSize above + 1)
      (left ++ cell :: right) = cell := by
    have hdrop : (start - (stopOf before + 1 + rowsSize above + 1 + cellsSize left + 1)).toNat =
        0 := by omega
    have htake : (stop - (stopOf before + 1 + rowsSize above + 1 + cellsSize left + 1)).toNat =
        cell.length := by omega
    rw [cellsWithin_append, cellsWithin_eq_nil (by omega), cellsWithin,
      cellsWithin_eq_nil (by rw [cellSize]; omega), charsAt_isWithin, htake, hdrop]
    simp
  have hrows : rowsWithin start stop (stopOf before + 1)
      (above ++ (left ++ cell :: right) :: below) = cell := by
    rw [rowsWithin_append, rowsWithin_eq_nil (by omega), rowsWithin, hcells, rowsWithin_eq_nil]
    · simp
    · simp only [rowSize_eq, cellsSize_append, cellsSize_cons, cellSize]
      omega
  rw [stopOf_eq] at hstart
  rw [textWithin_append, textWithin_eq_nil (by rw [bodyStart]; omega), textWithin,
    textWithin_eq_nil]
  · rw [List.nil_append, List.append_nil]
    exact hrows
  · simp only [bodyStart, rowsSize_append, rowsSize_cons, cellsSize_append, cellsSize_cons,
      cellSize]
    omega

end Ranges

end DocPress.MemoryDocument
