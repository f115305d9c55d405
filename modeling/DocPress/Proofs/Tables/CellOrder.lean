import DocPress.Proofs.Tables.Filling
import DocPress.Proofs.Tables.Plan

/-!
# The cells in a batch

Whatever cells a layout has, the batch that fills a table at it has one insertion for each
cell with text that is there, and this insertion is made at the cell's own paragraph. The
last cell comes first. So if the paragraphs of the cells follow each other row by row, the
batch goes through the document backwards, and no insertion moves the place of a later one.
-/

namespace DocPress

open TableDescriptor

/-! ## Cells with text -/

/-- The text of a cell, if rows have this cell. -/
def textAt? (rows : List (List Text)) (row column : Nat) : Option Text :=
  rows[row]?.bind (·[column]?)

/-- The number of texts that are not empty. -/
def countTexts (texts : List Text) : Nat :=
  texts.countP fun text => !text.isEmpty

/-- Whether a cell comes before another one, row by row. -/
def ComesBefore (first second : Nat × Nat) : Prop :=
  first.1 < second.1 ∨ (first.1 = second.1 ∧ first.2 < second.2)

/-- The texts to be filled in are those of the rows that are not empty. -/
theorem mem_filled_iff {rows : List (List Text)} {row column : Nat} {text : Text} :
    (row, column, text) ∈ filled rows ↔ text ≠ [] ∧ textAt? rows row column = some text := by
  simp only [filled, List.mem_flatMap, List.mem_filterMap, Prod.exists,
    List.mem_zipIdx_iff_getElem?, textAt?, Option.bind_eq_some_iff]
  constructor
  · rintro ⟨cells, number, hcells, other, place, hother, hcell⟩
    split at hcell
    next => exact absurd hcell (by simp)
    next hne =>
      obtain ⟨rfl, rfl, rfl⟩ := by simpa using hcell
      exact ⟨by simpa using hne, cells, hcells, hother⟩
  · rintro ⟨hne, cells, hcells, htext⟩
    exact ⟨cells, row, hcells, text, column, htext, if_neg (by simpa using hne)⟩

theorem filledRow_pairwise (number column : Nat) (row : List Text) :
    (filledRow number column row).Pairwise fun first second =>
      ComesBefore (first.1, first.2.1) (second.1, second.2.1) := by
  induction row generalizing column with
  | nil => exact List.Pairwise.nil
  | cons text rest ih =>
      by_cases htext : text = []
      · rw [htext, filledRow_cons_nil]
        exact ih (column + 1)
      · rw [filledRow_cons_of_ne htext]
        refine List.pairwise_cons.mpr ⟨fun other hmem => ?_, ih (column + 1)⟩
        obtain ⟨hrow, hcolumn⟩ := of_mem_filledRow hmem
        exact .inr ⟨hrow.symm, hcolumn⟩

/-- The texts of rows come from top to bottom. -/
theorem filledFrom_pairwise (number : Nat) (rows : List (List Text)) :
    (filledFrom number rows).Pairwise fun first second =>
      ComesBefore (first.1, first.2.1) (second.1, second.2.1) := by
  induction rows generalizing number with
  | nil => exact List.Pairwise.nil
  | cons row rest ih =>
      rw [filledFrom_cons, List.pairwise_append]
      refine ⟨filledRow_pairwise number 0 row, ih (number + 1), ?_⟩
      intro first hfirst second hsecond
      have hlater := le_of_mem_filledFrom hsecond
      rw [← (of_mem_filledRow hfirst).1] at hlater
      exact .inl hlater

theorem length_filledRow (number column : Nat) (row : List Text) :
    (filledRow number column row).length = countTexts row := by
  induction row generalizing column with
  | nil => rfl
  | cons text rest ih =>
      by_cases htext : text = []
      · rw [htext, filledRow_cons_nil, ih]
        rfl
      · rw [filledRow_cons_of_ne htext, List.length_cons, ih, countTexts, countTexts,
          List.countP_cons_of_pos (by simpa using htext)]

/-- Every text of the rows that is not empty is to be filled in. -/
theorem length_filledFrom (number : Nat) (rows : List (List Text)) :
    (filledFrom number rows).length = countTexts rows.flatten := by
  induction rows generalizing number with
  | nil => rfl
  | cons row rest ih =>
      rw [filledFrom_cons, List.length_append, length_filledRow, ih, List.flatten_cons, countTexts,
        countTexts, countTexts, List.countP_append]

/-! ## One insertion for each cell -/

namespace TableLayout

variable {layout : TableLayout} {rows : List (List Text)}

/-- Whether a request inserts the text of a cell at the paragraph of this cell in a layout. -/
def Fills (layout : TableLayout) (rows : List (List Text)) (cell : Nat × Nat)
    (request : Request) : Prop :=
  ∃ position text, layout.cell? cell.1 cell.2 = some position ∧
    textAt? rows cell.1 cell.2 = some text ∧
    request = .insertTextAt position.paragraphStart text

/-- Whether requests fill exactly the cells that have text and are in a layout, each of them
once, and the last one first. -/
def FillsOnce (layout : TableLayout) (rows : List (List Text)) (requests : List Request) : Prop :=
  ∃ cells : List (Nat × Nat),
    (cells.Pairwise fun first second => ComesBefore second first) ∧
    (∀ row column, (row, column) ∈ cells ↔
      (∃ text, text ≠ [] ∧ textAt? rows row column = some text) ∧
        (layout.cell? row column).isSome) ∧
    List.Forall₂ (layout.Fills rows) cells requests

/-- The insertion that fills a cell with text, if the layout has the cell. -/
def insertion? (layout : TableLayout) (cell : Nat × Nat × Text) : Option Request :=
  (layout.cell? cell.1 cell.2.1).map fun position =>
    .insertTextAt position.paragraphStart cell.2.2

theorem insertions_eq_filterMap (layout : TableLayout) (rows : List (List Text)) :
    layout.insertions rows = (filled rows).reverse.filterMap layout.insertion? := rfl

theorem isSome_insertion? (cell : Nat × Nat × Text) :
    (layout.insertion? cell).isSome = (layout.cell? cell.1 cell.2.1).isSome := by
  rw [insertion?, Option.isSome_map]

/-- The insertions for cells of the rows are made in the order of these cells. -/
theorem forall₂_filterMap_insertion? {cells : List (Nat × Nat × Text)}
    (hcells : ∀ cell ∈ cells, textAt? rows cell.1 cell.2.1 = some cell.2.2) :
    List.Forall₂ (layout.Fills rows)
      ((cells.filter fun cell => (layout.insertion? cell).isSome).map fun cell =>
        (cell.1, cell.2.1))
      (cells.filterMap layout.insertion?) := by
  induction cells with
  | nil => exact .nil
  | cons cell rest ih =>
      obtain ⟨htext, hrest⟩ := List.forall_mem_cons.mp hcells
      cases hinsertion : layout.insertion? cell with
      | none =>
          rw [List.filter_cons_of_neg (by simp [hinsertion]), List.filterMap_cons_none hinsertion]
          exact ih hrest
      | some request =>
          rw [List.filter_cons_of_pos (by simp [hinsertion]), List.filterMap_cons_some hinsertion]
          obtain ⟨position, hposition, rfl⟩ := Option.map_eq_some_iff.mp hinsertion
          exact .cons ⟨position, cell.2.2, hposition, htext, rfl⟩ (ih hrest)

/-- A batch fills every cell once, and the last one first. -/
theorem insertions_fillsOnce (layout : TableLayout) (rows : List (List Text)) :
    layout.FillsOnce rows (layout.insertions rows) := by
  refine ⟨_, ?_, ?_, forall₂_filterMap_insertion? fun cell hmem => ?_⟩
  · rw [List.pairwise_map]
    exact (List.pairwise_reverse.mpr (filledFrom_pairwise 0 rows)).filter _
  · intro row column
    simp only [List.mem_map, List.mem_filter, List.mem_reverse, isSome_insertion?, Prod.exists,
      Prod.mk.injEq]
    constructor
    · rintro ⟨_, _, text, ⟨hmem, hcell⟩, rfl, rfl⟩
      exact ⟨⟨text, mem_filled_iff.mp hmem⟩, hcell⟩
    · rintro ⟨⟨text, hmem⟩, hcell⟩
      exact ⟨row, column, text, ⟨mem_filled_iff.mpr hmem, hcell⟩, rfl, rfl⟩
  · exact (mem_filled_iff.mp (List.mem_reverse.mp hmem)).2

/-- The number of cells with text that are not in a layout. -/
def countAbsent (layout : TableLayout) (rows : List (List Text)) : Nat :=
  (filled rows).countP fun cell => (layout.cell? cell.1 cell.2.1).isNone

/-- Each cell with text is filled or absent. -/
theorem length_insertions_add_countAbsent (layout : TableLayout) (rows : List (List Text)) :
    (layout.insertions rows).length + layout.countAbsent rows = countTexts rows.flatten := by
  have hfilled : (layout.insertions rows).length =
      (filled rows).countP fun cell => (layout.cell? cell.1 cell.2.1).isSome := by
    rw [insertions_eq_filterMap, List.length_filterMap_eq_countP, List.countP_reverse]
    simp only [isSome_insertion?]
  rw [hfilled, countAbsent, ← length_filledFrom 0 rows, ← filled_eq,
    List.length_eq_countP_add_countP fun cell => (layout.cell? cell.1 cell.2.1).isSome]
  exact congrArg _ (List.countP_congr fun cell _ => by simp)

/-! ## Insertions that go backwards -/

/-- Whether the paragraphs of the cells follow each other, row by row. -/
def Ascends (layout : TableLayout) : Prop :=
  layout.cells.flatten.Pairwise fun first second =>
    ∃ start later, first.paragraphStart = some start ∧ second.paragraphStart = some later ∧
      start < later

end TableLayout

/-- Where a place of a document lies after a request has inserted text. -/
def Request.moved (request : Request) (place : Int) : Int :=
  match request with
  | .insertText index text => if index ≤ place then place + units text else place
  | _ => place

/-- Whether two insertions go backwards: the second one is made at a lower place, which the
first one has not moved. -/
def Request.GoesBackTo (first second : Request) : Prop :=
  ∃ index text target later, first = .insertText index text ∧ second = .insertText target later ∧
    target < index ∧ first.moved target = target

namespace TableLayout

/-- The cells of a row that are filled come in the order of the row. -/
theorem positions_filledRow_sublist (cells : List CellPosition) (number column : Nat)
    (row : List Text) :
    ((filledRow number column row).filterMap fun cell => cells[cell.2.1]?).Sublist
      (cells.drop column) := by
  induction row generalizing column with
  | nil => exact List.nil_sublist _
  | cons text rest ih =>
      have hnext : (cells.drop (column + 1)).Sublist (cells.drop column) := by
        rw [← List.drop_drop]
        exact List.drop_sublist _ _
      by_cases htext : text = []
      · rw [htext, filledRow_cons_nil]
        exact (ih (column + 1)).trans hnext
      · rw [filledRow_cons_of_ne htext]
        cases hcell : cells[column]? with
        | none =>
            simp only [List.filterMap_cons, hcell]
            exact (ih (column + 1)).trans hnext
        | some position =>
            obtain ⟨hlt, rfl⟩ := List.getElem?_eq_some_iff.mp hcell
            simp only [List.filterMap_cons, hcell, List.drop_eq_getElem_cons hlt]
            exact (ih (column + 1)).cons_cons _

/-- The cells that are filled come in the order in which the layout has them. -/
theorem positions_filledFrom_sublist (layout : TableLayout) (number : Nat)
    (rows : List (List Text)) :
    ((filledFrom number rows).filterMap fun cell => layout.cell? cell.1 cell.2.1).Sublist
      (layout.cells.drop number).flatten := by
  induction rows generalizing number with
  | nil => exact List.nil_sublist _
  | cons row rest ih =>
      rw [filledFrom_cons, List.filterMap_append]
      have hrow : ∀ cell ∈ filledRow number 0 row, layout.cell? cell.1 cell.2.1 =
          (layout.cells[number]?.getD [])[cell.2.1]? := by
        intro cell hmem
        rw [cell?, (of_mem_filledRow hmem).1]
        cases layout.cells[number]? <;> rfl
      have hsplit : (layout.cells.drop number).flatten =
          layout.cells[number]?.getD [] ++ (layout.cells.drop (number + 1)).flatten := by
        cases hcells : layout.cells[number]? with
        | none =>
            have hle := List.getElem?_eq_none_iff.mp hcells
            rw [List.drop_of_length_le hle, List.drop_of_length_le (Nat.le_succ_of_le hle)]
            rfl
        | some cells =>
            obtain ⟨hlt, rfl⟩ := List.getElem?_eq_some_iff.mp hcells
            rw [List.drop_eq_getElem_cons hlt]
            rfl
      rw [List.filterMap_congr hrow, hsplit]
      exact (positions_filledRow_sublist _ number 0 row).append (ih (number + 1))

/-- A batch at a layout whose paragraphs follow each other goes backwards. -/
theorem insertions_goBack {layout : TableLayout} (hascends : layout.Ascends)
    (rows : List (List Text)) : (layout.insertions rows).Pairwise Request.GoesBackTo := by
  have hpositions := positions_filledFrom_sublist layout 0 rows
  rw [List.drop_zero] at hpositions
  have hsorted := List.pairwise_filterMap.mp (hascends.sublist hpositions)
  rw [insertions_eq_filterMap, List.pairwise_filterMap, List.pairwise_reverse]
  -- In the batch the later cell comes first, so an insertion lies behind all that follow it.
  refine hsorted.imp fun {earlier later} hfollows second hsecond first hfirst => ?_
  obtain ⟨low, hlow, rfl⟩ := Option.map_eq_some_iff.mp hfirst
  obtain ⟨high, hhigh, rfl⟩ := Option.map_eq_some_iff.mp hsecond
  obtain ⟨target, index, htarget, hindex, hlt⟩ := hfollows low hlow high hhigh
  rw [htarget, hindex]
  exact ⟨index, later.2.2, target, earlier.2.2, rfl, rfl, hlt,
    if_neg (Int.not_le_of_gt hlt)⟩

end TableLayout

end DocPress
