import Mathlib.Data.List.DropRight
import DocPress.Proofs.TypographyStability

/-!
# Lines of structure under the typographic filter

The delimiter row of a table and a thematic break are lines made of hyphens and a few
other characters. The filter leaves every delimiter row as it is. A thematic break it
knows only by marks that stand together: if there are spaces or tabs between them, four
hyphens in a row are taken for punctuation and become dashes.
-/

namespace DocPress.Typography

/-! ## Trimming -/

/-- Dropping stops at a character that is kept, whatever comes after it. -/
theorem dropWhile_append_cons {dropped : Char → Bool} {kept : Char} (hkept : dropped kept = false)
    (first rest : Text) :
    (first ++ kept :: rest).dropWhile dropped = first.dropWhile dropped ++ kept :: rest := by
  rw [List.dropWhile_append, List.dropWhile_cons_of_neg (by simp [hkept])]
  split
  next hempty => rw [List.isEmpty_iff.mp hempty, List.nil_append]
  next => rfl

theorem rdropWhile_append_cons {dropped : Char → Bool} {kept : Char}
    (hkept : dropped kept = false) (first rest : Text) :
    (first ++ kept :: rest).rdropWhile dropped = first ++ kept :: rest.rdropWhile dropped := by
  simp only [List.rdropWhile, List.reverse_append, List.reverse_cons, List.append_assoc,
    List.singleton_append]
  rw [dropWhile_append_cons hkept]
  simp

theorem trim_eq_rdropWhile (text : Text) :
    trim text = (text.dropWhile isBlank).rdropWhile isBlank := rfl

/-- Whether a text neither begins nor ends with a blank. -/
structure IsTight (text : Text) : Prop where
  first : ∃ c rest, text = c :: rest ∧ isBlank c = false
  last : ∃ rest c, text = rest ++ [c] ∧ isBlank c = false

namespace IsTight

variable {text left right : Text}

theorem dropWhile_append (htight : IsTight text) (hleft : ∀ c ∈ left, isBlank c) (right : Text) :
    (left ++ text ++ right).dropWhile isBlank = text ++ right := by
  obtain ⟨c, rest, rfl, hc⟩ := htight.first
  rw [List.append_assoc, List.cons_append, dropWhile_append_cons hc,
    List.dropWhile_eq_nil_iff.mpr hleft, List.nil_append]

theorem rdropWhile_append (htight : IsTight text) (left : Text) (hright : ∀ c ∈ right, isBlank c) :
    (left ++ text ++ right).rdropWhile isBlank = left ++ text := by
  obtain ⟨rest, c, rfl, hc⟩ := htight.last
  rw [← List.append_assoc, List.append_assoc, List.singleton_append, rdropWhile_append_cons hc,
    List.rdropWhile_eq_nil_iff.mpr hright]

/-- Trimming takes away the blanks around a tight text. -/
theorem trim_append (htight : IsTight text) (hleft : ∀ c ∈ left, isBlank c)
    (hright : ∀ c ∈ right, isBlank c) : trim (left ++ text ++ right) = text := by
  rw [trim_eq_rdropWhile, htight.dropWhile_append hleft]
  exact htight.rdropWhile_append [] hright

end IsTight

/-! ## Delimiter rows -/

/-- A cell of a delimiter row: hyphens, perhaps a colon before or after them, and
blanks around. -/
structure DelimiterCell where
  /-- The blanks before the mark. -/
  left : Text := []
  /-- Whether a colon stands before the hyphens. -/
  opened : Bool := false
  /-- The number of hyphens. -/
  hyphens : Nat
  /-- Whether a colon stands after the hyphens. -/
  closed : Bool := false
  /-- The blanks after the mark. -/
  right : Text := []
  hyphens_pos : 0 < hyphens
  left_blank : ∀ c ∈ left, isBlank c
  right_blank : ∀ c ∈ right, isBlank c

namespace DelimiterCell

/-- A colon, if there is one. -/
def colonIf (present : Bool) : Text :=
  if present then [':'] else []

/-- The hyphens of a cell with their colons. -/
def mark (cell : DelimiterCell) : Text :=
  colonIf cell.opened ++ List.replicate cell.hyphens '-' ++ colonIf cell.closed

/-- The text of a cell. -/
def text (cell : DelimiterCell) : Text :=
  cell.left ++ cell.mark ++ cell.right

/-- A cell without the blanks before its mark. -/
def dropLeft (cell : DelimiterCell) : DelimiterCell :=
  { cell with left := [], left_blank := fun _ hmem => absurd hmem List.not_mem_nil }

/-- A cell without the blanks after its mark. -/
def dropRight (cell : DelimiterCell) : DelimiterCell :=
  { cell with right := [], right_blank := fun _ hmem => absurd hmem List.not_mem_nil }

variable (cell : DelimiterCell)

theorem mem_mark {c : Char} (hmem : c ∈ cell.mark) : c = ':' ∨ c = '-' := by
  grind [mark, colonIf]

theorem isBlank_of_mem_mark {c : Char} (hmem : c ∈ cell.mark) : isBlank c = false := by
  rcases cell.mem_mark hmem with rfl | rfl <;> decide

theorem mark_ne_nil : cell.mark ≠ [] := by
  have hpos := cell.hyphens_pos
  simp only [mark, ne_eq, List.append_eq_nil_iff, List.replicate_eq_nil_iff]
  omega

/-- The mark of a cell neither begins nor ends with a blank. -/
theorem mark_isTight : IsTight cell.mark where
  first := by
    obtain ⟨c, rest, hmark⟩ := List.exists_cons_of_ne_nil cell.mark_ne_nil
    exact ⟨c, rest, hmark, cell.isBlank_of_mem_mark (by simp [hmark])⟩
  last := by
    obtain hnil | ⟨rest, c, hmark⟩ := List.eq_nil_or_concat cell.mark
    · exact absurd hnil cell.mark_ne_nil
    · exact ⟨rest, c, by simpa using hmark, cell.isBlank_of_mem_mark (by simp [hmark])⟩

theorem dropWhile_text : cell.text.dropWhile isBlank = cell.dropLeft.text :=
  cell.mark_isTight.dropWhile_append cell.left_blank cell.right

theorem rdropWhile_text : cell.text.rdropWhile isBlank = cell.dropRight.text := by
  rw [text, cell.mark_isTight.rdropWhile_append cell.left cell.right_blank]
  exact (List.append_nil _).symm

theorem bar_notMem_text : '|' ∉ cell.text := by
  intro hmem
  have hbar : ¬ isBlank '|' := by decide
  rcases List.mem_append.mp hmem with hmem | hmem
  · rcases List.mem_append.mp hmem with hmem | hmem
    · exact hbar (cell.left_blank _ hmem)
    · exact absurd (cell.mem_mark hmem) (by decide)
  · exact hbar (cell.right_blank _ hmem)

theorem text_ne_nil : cell.text ≠ [] := by
  simp [text, cell.mark_ne_nil]

end DelimiterCell

/-- At most the last character is dropped. -/
theorem dropTrailingOnce_append_singleton (c last : Char) (text : Text) :
    dropTrailingOnce c (text ++ [last]) = if last = c then text else text ++ [last] := by
  induction text with
  | nil => rfl
  | cons first rest ih =>
      obtain ⟨next, others, hrest⟩ : ∃ next others, rest ++ [last] = next :: others :=
        List.exists_cons_of_ne_nil (by simp)
      rw [List.cons_append, hrest, dropTrailingOnce, ← hrest, ih]
      · split <;> rfl
      · exact List.cons_ne_nil _ _

theorem dropLeadingOnce_colonIf (present : Bool) (rest : Text) :
    dropLeadingOnce ':' (DelimiterCell.colonIf present ++ '-' :: rest) = '-' :: rest := by
  cases present <;> rfl

/-- Without its colon the mark ends with a hyphen. -/
theorem dropTrailingOnce_colonIf (present : Bool) (rest : Text) :
    dropTrailingOnce ':' (rest ++ ['-'] ++ DelimiterCell.colonIf present) = rest ++ ['-'] := by
  cases present with
  | false => simp [DelimiterCell.colonIf, dropTrailingOnce_append_singleton]
  | true => exact dropTrailingOnce_append_singleton ':' ':' (rest ++ ['-'])

/-- Every cell of the grammar is taken for one. -/
theorem DelimiterCell.isDelimiterCell_text (cell : DelimiterCell) :
    isDelimiterCell cell.text = true := by
  obtain ⟨more, hmore⟩ := Nat.exists_eq_succ_of_ne_zero (Nat.ne_of_gt cell.hyphens_pos)
  have htrim : trim cell.text = cell.mark :=
    cell.mark_isTight.trim_append cell.left_blank cell.right_blank
  have hleading : dropLeadingOnce ':' cell.mark =
      List.replicate more '-' ++ ['-'] ++ colonIf cell.closed := by
    rw [mark, hmore, List.replicate_succ, List.append_assoc, List.cons_append,
      dropLeadingOnce_colonIf, ← List.cons_append, ← List.replicate_succ, List.replicate_succ']
  have hcore : dropTrailingOnce ':' (dropLeadingOnce ':' (trim cell.text)) =
      List.replicate more '-' ++ ['-'] := by
    rw [htrim, hleading, dropTrailingOnce_colonIf]
  simp [isDelimiterCell, hcore]

/-- A delimiter row: cells with bars between them, and perhaps a bar at either end. The
blanks outside such a bar are a margin; without a bar they belong to the cell. -/
structure DelimiterRow where
  /-- The blanks before a bar at the start, if there is one. -/
  leading : Option Text := none
  cells : List DelimiterCell
  /-- The blanks after a bar at the end, if there is one. -/
  trailing : Option Text := none
  cells_ne : cells ≠ []
  leading_blank : ∀ margin ∈ leading, ∀ c ∈ margin, isBlank c
  trailing_blank : ∀ margin ∈ trailing, ∀ c ∈ margin, isBlank c

namespace DelimiterRow

/-- What stands between the bars of a row, the margins included. -/
def pieces (row : DelimiterRow) : List Text :=
  row.leading.toList ++ row.cells.map DelimiterCell.text ++ row.trailing.toList

/-- The row as it stands in a text. -/
def line (row : DelimiterRow) : Text :=
  joinWith ['|'] row.pieces

/-- A row without blanks at its start. -/
def dropLeft (row : DelimiterRow) : DelimiterRow :=
  match row.leading with
  | some _ => { row with leading := some [], leading_blank := by simp }
  | none =>
      { row with
        leading := none
        cells := (row.cells.head row.cells_ne).dropLeft :: row.cells.tail
        cells_ne := List.cons_ne_nil _ _
        leading_blank := by simp }

/-- A row without blanks at its end. -/
def dropRight (row : DelimiterRow) : DelimiterRow :=
  match row.trailing with
  | some _ => { row with trailing := some [], trailing_blank := by simp }
  | none =>
      { row with
        trailing := none
        cells := row.cells.dropLast ++ [(row.cells.getLast row.cells_ne).dropRight]
        cells_ne := by simp
        trailing_blank := by simp }

end DelimiterRow

/-- Blanks at the start of a row are blanks at the start of its first piece. -/
theorem dropWhile_joinWith (piece : Text) (pieces : List Text) :
    (joinWith ['|'] (piece :: pieces)).dropWhile isBlank =
      joinWith ['|'] (piece.dropWhile isBlank :: pieces) := by
  cases pieces with
  | nil => rfl
  | cons next others =>
      rw [joinWith_cons_cons, joinWith_cons_cons, List.append_assoc, List.append_assoc,
        List.singleton_append, dropWhile_append_cons (by decide)]

/-- Blanks at the end of a row are blanks at the end of its last piece. -/
theorem rdropWhile_joinWith (pieces : List Text) (piece : Text) :
    (joinWith ['|'] (pieces ++ [piece])).rdropWhile isBlank =
      joinWith ['|'] (pieces ++ [piece.rdropWhile isBlank]) := by
  induction pieces with
  | nil => rfl
  | cons first rest ih =>
      have hjoin : ∀ last, joinWith ['|'] (first :: rest ++ [last]) =
          first ++ '|' :: joinWith ['|'] (rest ++ [last]) := by
        intro last
        obtain ⟨next, others, hrest⟩ : ∃ next others, rest ++ [last] = next :: others :=
          List.exists_cons_of_ne_nil (by simp)
        rw [List.cons_append, hrest, joinWith_cons_cons, List.append_assoc,
          List.singleton_append]
      rw [hjoin, hjoin, rdropWhile_append_cons (by decide), ih]

/-- Pieces without the first one, if that is empty. -/
def withoutEmptyHead : List Text → List Text
  | [] :: rest => rest
  | pieces => pieces

theorem withoutEmptyHead_cons {piece : Text} (hne : piece ≠ []) (rest : List Text) :
    withoutEmptyHead (piece :: rest) = piece :: rest := by
  obtain ⟨c, others, rfl⟩ := List.exists_cons_of_ne_nil hne
  rfl

/-- The pieces of a row are what stands between its bars, less an empty piece at either end. -/
theorem rowPieces_eq (row : Text) :
    rowPieces row = (withoutEmptyHead (withoutEmptyHead (splitAt '|' row)).reverse).reverse := by
  have hend : ∀ pieces : List Text, (match pieces.reverse with
      | [] :: rest => rest.reverse
      | _ => pieces) = (withoutEmptyHead pieces.reverse).reverse := by
    intro pieces
    unfold withoutEmptyHead
    split <;> simp_all
  exact hend _

namespace DelimiterRow

variable (row : DelimiterRow)

/-- Blanks dropped before a row are those of its margin, or those of its first cell. -/
theorem dropWhile_line : row.line.dropWhile isBlank = row.dropLeft.line := by
  obtain ⟨leading, cells, trailing, hne, hleading, htrailing⟩ := row
  cases leading with
  | some margin =>
      have hblank : margin.dropWhile isBlank = [] :=
        List.dropWhile_eq_nil_iff.mpr (hleading margin rfl)
      simp only [line, pieces, dropLeft, Option.toList_some, List.cons_append,
        dropWhile_joinWith, hblank]
  | none =>
      cases cells with
      | nil => exact absurd rfl hne
      | cons cell others =>
          simp only [line, pieces, dropLeft, Option.toList_none, List.nil_append, List.map_cons,
            List.cons_append, dropWhile_joinWith, cell.dropWhile_text, List.head_cons,
            List.tail_cons]

/-- Blanks dropped after a row are those of its margin, or those of its last cell. -/
theorem rdropWhile_line : row.line.rdropWhile isBlank = row.dropRight.line := by
  obtain ⟨leading, cells, trailing, hne, hleading, htrailing⟩ := row
  cases trailing with
  | some margin =>
      have hblank : margin.rdropWhile isBlank = [] :=
        List.rdropWhile_eq_nil_iff.mpr (htrailing margin rfl)
      simp only [line, pieces, dropRight, Option.toList_some, rdropWhile_joinWith, hblank]
  | none =>
      obtain rfl | ⟨others, cell, rfl⟩ := List.eq_nil_or_concat' cells
      · exact absurd rfl hne
      · simp only [line, pieces, dropRight, Option.toList_none, List.append_nil, List.map_append,
          List.map_cons, List.map_nil, ← List.append_assoc, rdropWhile_joinWith,
          cell.rdropWhile_text, List.getLast_append_singleton, List.dropLast_concat]

theorem trim_line : trim row.line = row.dropLeft.dropRight.line := by
  rw [trim_eq_rdropWhile, dropWhile_line, rdropWhile_line]

/-- A row split at its bars is what was put between them. -/
theorem splitAt_line : splitAt '|' row.line = row.pieces := by
  have hblank : ¬ isBlank '|' := by decide
  apply splitAt_joinWith
  · simp [pieces, row.cells_ne]
  · intro piece hmem
    simp only [pieces, List.mem_append, Option.mem_toList, List.mem_map] at hmem
    rcases hmem with (hleading | ⟨cell, -, rfl⟩) | htrailing
    · exact fun hbar => hblank (row.leading_blank piece hleading _ hbar)
    · exact cell.bar_notMem_text
    · exact fun hbar => hblank (row.trailing_blank piece htrailing _ hbar)

/-- The pieces of a row without blanks at its ends are its cells. -/
theorem rowPieces_line (hleading : ∀ margin ∈ row.leading, margin = [])
    (htrailing : ∀ margin ∈ row.trailing, margin = []) :
    rowPieces row.line = row.cells.map DelimiterCell.text := by
  rw [rowPieces_eq, splitAt_line]
  obtain ⟨leading, cells, trailing, hne, _, _⟩ := row
  -- A bar at an end of the row leaves an empty piece there. Without one the outermost piece
  -- is a cell, and a cell is never empty.
  have hstart : withoutEmptyHead (leading.toList ++ cells.map DelimiterCell.text ++
      trailing.toList) = cells.map DelimiterCell.text ++ trailing.toList := by
    cases leading with
    | some margin =>
        obtain rfl : margin = [] := hleading margin rfl
        rfl
    | none =>
        obtain ⟨cell, others, rfl⟩ := List.exists_cons_of_ne_nil hne
        exact withoutEmptyHead_cons cell.text_ne_nil _
  have hend : withoutEmptyHead (cells.map DelimiterCell.text ++ trailing.toList).reverse =
      (cells.map DelimiterCell.text).reverse := by
    cases trailing with
    | some margin =>
        obtain rfl : margin = [] := htrailing margin rfl
        simp [withoutEmptyHead]
    | none =>
        obtain rfl | ⟨others, cell, rfl⟩ := List.eq_nil_or_concat' cells
        · exact absurd rfl hne
        · simp [withoutEmptyHead_cons cell.text_ne_nil]
  simp only [pieces, hstart, hend, List.reverse_reverse]

theorem dropLeft_leading : ∀ margin ∈ row.dropLeft.leading, margin = [] := by
  unfold dropLeft
  split <;> simp

theorem dropRight_trailing : ∀ margin ∈ row.dropRight.trailing, margin = [] := by
  unfold dropRight
  split <;> simp

theorem dropRight_leading : row.dropRight.leading = row.leading := by
  unfold dropRight
  split <;> rfl

/-- Every row of the grammar is taken for one. -/
theorem isExempt_line : isExempt row.line = true := by
  have hpieces : rowPieces (trim row.line) =
      row.dropLeft.dropRight.cells.map DelimiterCell.text := by
    rw [trim_line]
    apply rowPieces_line
    · rw [dropRight_leading]
      exact row.dropLeft_leading
    · exact dropRight_trailing _
  have hrow : isDelimiterRow (trim row.line) = true := by
    simp [isDelimiterRow, hpieces, row.dropLeft.dropRight.cells_ne,
      DelimiterCell.isDelimiterCell_text]
  rw [isExempt, hrow, Bool.true_or]

end DelimiterRow

/-! ## Thematic breaks -/

/-- A thematic break: at most three spaces, and then at least three equal marks with
spaces or tabs between and after them. -/
structure ThematicBreak where
  /-- The number of spaces before the first mark. -/
  indent : Nat := 0
  mark : Char
  /-- What stands after each of the marks. -/
  gaps : List Text
  indent_le : indent ≤ 3
  mark_mem : mark ∈ ['-', '_', '*']
  three_le : 3 ≤ gaps.length
  gap_blank : ∀ gap ∈ gaps, ∀ c ∈ gap, c = ' ' ∨ c = '\t'

namespace ThematicBreak

/-- Marks with a gap after each of them. -/
def marks (mark : Char) (gaps : List Text) : Text :=
  gaps.flatMap (mark :: ·)

/-- The break as it stands in a text. -/
def line (rule : ThematicBreak) : Text :=
  List.replicate rule.indent ' ' ++ marks rule.mark rule.gaps

/-- Whether no spaces or tabs stand between the marks of a break. -/
def IsSolid (rule : ThematicBreak) : Prop :=
  ∀ gap ∈ rule.gaps.dropLast, gap = []

theorem marks_eq_replicate (mark : Char) {gaps : List Text} (hgaps : ∀ gap ∈ gaps, gap = []) :
    marks mark gaps = List.replicate gaps.length mark := by
  induction gaps with
  | nil => rfl
  | cons gap rest ih =>
      rw [marks, List.flatMap_cons, hgaps gap List.mem_cons_self, List.length_cons,
        List.replicate_succ]
      exact congrArg (mark :: ·) (ih fun other hmem => hgaps other (List.mem_cons_of_mem _ hmem))

variable (rule : ThematicBreak)

/-- A break has no other characters than its mark, spaces and tabs. -/
theorem mem_line {c : Char} (hmem : c ∈ rule.line) : c = rule.mark ∨ c = ' ' ∨ c = '\t' := by
  rcases List.mem_append.mp hmem with hindent | hmarks
  · exact .inr (.inl (List.eq_of_mem_replicate hindent))
  · obtain ⟨gap, hgap, hmem⟩ := List.mem_flatMap.mp hmarks
    rcases List.mem_cons.mp hmem with hc | hc
    · exact .inl hc
    · exact .inr (rule.gap_blank gap hgap c hc)

theorem isBlank_mark : isBlank rule.mark = false := by
  have hmark := rule.mark_mem
  simp only [List.mem_cons, List.not_mem_nil, or_false] at hmark
  rcases hmark with hmark | hmark | hmark <;> rw [hmark] <;> decide

theorem mem_line_chars {c : Char} (hmem : c ∈ rule.line) : c ∈ ['-', '_', '*', ' ', '\t'] := by
  have hmark := rule.mark_mem
  have hc := rule.mem_line hmem
  grind

theorem isSet_line : IsSet rule.line where
  doubleQuote hmem := absurd (rule.mem_line_chars hmem) (by decide)
  singleQuote hmem := absurd (rule.mem_line_chars hmem) (by decide)
  tripleDot htriple := absurd (rule.mem_line_chars (htriple.subset List.mem_cons_self)) (by decide)

/-- A break without its indentation and what stands after its last mark. -/
def core : Text :=
  marks rule.mark rule.gaps.dropLast ++ [rule.mark]

/-- A break without its margins begins and ends with a mark. -/
theorem core_isTight : IsTight rule.core where
  first := by
    have hlength := rule.three_le
    -- There are three marks at least, so one stands before the last.
    obtain ⟨gap, others, hgaps⟩ : ∃ gap others, rule.gaps.dropLast = gap :: others := by
      apply List.exists_cons_of_ne_nil
      intro hnil
      have := congrArg List.length hnil
      simp only [List.length_dropLast, List.length_nil] at this
      omega
    exact ⟨rule.mark, _, by rw [core, hgaps]; rfl, rule.isBlank_mark⟩
  last := ⟨_, rule.mark, rfl, rule.isBlank_mark⟩

/-- What follows the last mark is the last gap. -/
theorem line_eq_core : ∃ gap ∈ rule.gaps,
    rule.line = List.replicate rule.indent ' ' ++ rule.core ++ gap := by
  have hne : rule.gaps ≠ [] := by
    intro hnil
    have := rule.three_le
    simp [hnil] at this
  refine ⟨rule.gaps.getLast hne, List.getLast_mem hne, ?_⟩
  conv_lhs => rw [line, ← List.dropLast_append_getLast hne]
  simp [marks, core]

/-- Trimming takes the margins away from a break, and the gaps between its marks stay. -/
theorem trim_line : trim rule.line = rule.core := by
  obtain ⟨gap, hgap, hline⟩ := rule.line_eq_core
  rw [hline]
  apply rule.core_isTight.trim_append
  · intro c hmem
    rw [List.eq_of_mem_replicate hmem]
    decide
  · intro c hmem
    rcases rule.gap_blank gap hgap c hmem with rfl | rfl <;> decide

end ThematicBreak

theorem mem_dropLeadingOnce {c dropped : Char} {text : Text} (hmem : c ∈ text) :
    c = dropped ∨ c ∈ dropLeadingOnce dropped text := by
  cases text with
  | nil => exact absurd hmem List.not_mem_nil
  | cons first rest => grind [dropLeadingOnce]

theorem mem_dropTrailingOnce {c dropped : Char} {text : Text} (hmem : c ∈ text) :
    c = dropped ∨ c ∈ dropTrailingOnce dropped text := by
  obtain rfl | ⟨rest, last, rfl⟩ := List.eq_nil_or_concat' text
  · exact absurd hmem List.not_mem_nil
  · grind [dropTrailingOnce_append_singleton]

/-- A cell that is taken for one of a delimiter row has only hyphens and colons. -/
theorem mem_trim_of_isDelimiterCell {cell : Text} (hcell : isDelimiterCell cell = true) {c : Char}
    (hmem : c ∈ trim cell) : c = ':' ∨ c = '-' := by
  simp only [isDelimiterCell, Bool.and_eq_true, List.all_eq_true, beq_iff_eq] at hcell
  have hleading : c = ':' ∨ c ∈ dropLeadingOnce ':' (trim cell) := mem_dropLeadingOnce hmem
  rcases hleading with hc | hmem
  · exact .inl hc
  · exact (mem_dropTrailingOnce hmem).imp_right (hcell.2 c)

/-- A line without a bar is a row of one piece. -/
theorem rowPieces_eq_singleton {row : Text} (hne : row ≠ []) (hbar : '|' ∉ row) :
    rowPieces row = [row] := by
  rw [rowPieces_eq, splitAt_eq_splitOn, List.splitOn_eq_singleton hbar,
    withoutEmptyHead_cons hne, List.reverse_singleton, withoutEmptyHead_cons hne,
    List.reverse_singleton]

/-- Trimming takes only blanks away. -/
theorem isBlank_or_mem_trim {text : Text} {c : Char} (hmem : c ∈ text) :
    isBlank c ∨ c ∈ trim text := by
  have hdrop : ∀ {text : Text}, c ∈ text → isBlank c ∨ c ∈ text.dropWhile isBlank := by
    intro text hmem
    rw [← List.takeWhile_append_dropWhile (p := isBlank) (l := text)] at hmem
    exact (List.mem_append.mp hmem).imp_left List.mem_takeWhile_imp
  rcases hdrop hmem with hblank | hmem
  · exact .inl hblank
  · exact (hdrop (List.mem_reverse.mpr hmem)).imp_right List.mem_reverse.mpr

/-- Splitting loses separators only. -/
theorem mem_splitAt {separator c : Char} {text : Text} (hmem : c ∈ text) :
    c = separator ∨ ∃ piece ∈ splitAt separator text, c ∈ piece := by
  rw [or_iff_not_imp_left]
  intro hc
  have hjoin : joinWith [separator] (splitAt separator text) = text := by
    rw [joinWith_eq_intercalate, splitAt_eq_splitOn, List.intercalate_splitOn]
  rw [← hjoin] at hmem
  generalize splitAt separator text = pieces at hmem ⊢
  induction pieces with
  | nil => exact absurd hmem List.not_mem_nil
  | cons piece rest ih =>
      cases rest with
      | nil => exact ⟨piece, List.mem_cons_self, hmem⟩
      | cons next others =>
          rw [joinWith_cons_cons, List.append_assoc, List.mem_append, List.mem_append,
            List.mem_singleton] at hmem
          rcases hmem with hmem | hmem | hmem
          · exact ⟨piece, List.mem_cons_self, hmem⟩
          · exact absurd hmem hc
          · obtain ⟨other, hother, hmem⟩ := ih hmem
            exact ⟨other, List.mem_cons_of_mem _ hother, hmem⟩

theorem mem_withoutEmptyHead {c : Char} {piece : Text} {pieces : List Text}
    (hpiece : piece ∈ pieces) (hmem : c ∈ piece) : piece ∈ withoutEmptyHead pieces := by
  unfold withoutEmptyHead
  split
  next rest =>
    refine (List.mem_cons.mp hpiece).resolve_left ?_
    rintro rfl
    exact absurd hmem List.not_mem_nil
  next => exact hpiece

/-- Only bars are lost when a row is cut into pieces. -/
theorem mem_rowPieces {c : Char} {row : Text} (hmem : c ∈ row) :
    c = '|' ∨ ∃ piece ∈ rowPieces row, c ∈ piece := by
  refine (mem_splitAt hmem).imp_right ?_
  rintro ⟨piece, hpiece, hmem⟩
  rw [rowPieces_eq]
  have hfirst := List.mem_reverse.mpr (mem_withoutEmptyHead hpiece hmem)
  exact ⟨piece, List.mem_reverse.mpr (mem_withoutEmptyHead hfirst hmem), hmem⟩

/-- A line that the filter leaves as it is has no other characters than these. -/
theorem mem_of_isExempt {line : Text} (hexempt : isExempt line = true) {c : Char}
    (hmem : c ∈ line) : isBlank c ∨ c ∈ ['|', ':', '-', '_', '*'] := by
  rw [or_iff_not_imp_left]
  intro hink
  have hmem := (isBlank_or_mem_trim hmem).resolve_left hink
  rw [isExempt, Bool.or_eq_true] at hexempt
  rcases hexempt with hrow | hrule
  · rcases mem_rowPieces hmem with rfl | ⟨piece, hpiece, hmem⟩
    · decide
    · simp only [isDelimiterRow, Bool.and_eq_true, List.all_eq_true] at hrow
      have hmem := (isBlank_or_mem_trim hmem).resolve_left hink
      rcases mem_trim_of_isDelimiterCell (hrow.2 piece hpiece) hmem with rfl | rfl <;> decide
  · simp only [isRuleLine, Bool.and_eq_true, Bool.or_eq_true, List.all_eq_true,
      beq_iff_eq] at hrule
    rcases hrule.2 with (hall | hall) | hall <;> rw [hall c hmem] <;> decide

namespace ThematicBreak

variable (rule : ThematicBreak)

/-- Marks that stand together are a rule line. -/
theorem isRuleLine_core (hsolid : rule.IsSolid) : isRuleLine rule.core = true := by
  have hcore : rule.core = List.replicate (rule.gaps.length - 1 + 1) rule.mark := by
    rw [core, marks_eq_replicate rule.mark hsolid, List.length_dropLast, List.replicate_succ']
  have hlength := rule.three_le
  have hmark := rule.mark_mem
  have hthree : 3 ≤ rule.core.length := by
    rw [hcore, List.length_replicate]
    omega
  simp only [isRuleLine, hthree, decide_true, Bool.true_and, Bool.or_eq_true, List.all_eq_true,
    beq_iff_eq]
  rw [hcore]
  simp only [List.mem_replicate]
  grind

/-- A line that the filter leaves as it is has no spaces or tabs inside. -/
theorem not_blank_of_isExempt (hexempt : isExempt rule.line = true) {c : Char}
    (hmem : c ∈ rule.core) : ¬ (c = ' ' ∨ c = '\t') := by
  obtain ⟨first, rest, hcore, -⟩ := rule.core_isTight.first
  have hbar : '|' ∉ rule.core := by
    intro hmem
    obtain ⟨gap, -, hline⟩ := rule.line_eq_core
    have hbar : '|' ∈ rule.line := by simp [hline, hmem]
    exact absurd (rule.mem_line_chars hbar) (by decide)
  have htrim : trim rule.core = rule.core := by
    have hmargins : ∀ c ∈ ([] : Text), isBlank c := by simp
    simpa using rule.core_isTight.trim_append hmargins hmargins
  rw [isExempt, rule.trim_line, Bool.or_eq_true] at hexempt
  rcases hexempt with hrow | hrule
  · -- There is no bar in a break, so as a row it would have to be one cell.
    have hcell : isDelimiterCell rule.core = true := by
      rw [isDelimiterRow, rowPieces_eq_singleton (by simp [hcore]) hbar] at hrow
      simpa using hrow
    rcases mem_trim_of_isDelimiterCell hcell (htrim ▸ hmem) with rfl | rfl <;> decide
  · simp only [isRuleLine, Bool.and_eq_true, Bool.or_eq_true, List.all_eq_true,
      beq_iff_eq] at hrule
    rcases hrule.2 with (hall | hall) | hall <;> rw [hall c hmem] <;> decide

/-- The filter knows a break by its marks only if they stand together. -/
theorem isExempt_line_iff : isExempt rule.line = true ↔ rule.IsSolid := by
  constructor
  · intro hexempt gap hgap
    apply List.eq_nil_iff_forall_not_mem.mpr
    intro c hc
    have hcore : c ∈ rule.core :=
      List.mem_append_left _ (List.mem_flatMap.mpr ⟨gap, hgap, List.mem_cons_of_mem _ hc⟩)
    exact rule.not_blank_of_isExempt hexempt hcore
      (rule.gap_blank gap (List.dropLast_subset _ hgap) c hc)
  · intro hsolid
    rw [isExempt, rule.trim_line, rule.isRuleLine_core hsolid, Bool.or_true]

/-- Two hyphens of a break stand between characters that are not blank only if these
are hyphens too. -/
theorem hasInnerPair_line_iff : HasInnerPair rule.line ↔ "----".toList <:+: rule.line := by
  constructor
  · rintro ⟨left, c, d, right, hline, hc, hd⟩
    have hink : ∀ c ∈ rule.line, isInk c → c = rule.mark := by
      intro c hmem hink
      rcases rule.mem_line hmem with hmark | rfl | rfl
      · exact hmark
      · exact absurd hink (by decide)
      · exact absurd hink (by decide)
    have hmark : '-' = rule.mark := hink _ (by simp [hline]) (by decide)
    obtain rfl : c = '-' := hmark ▸ hink c (by simp [hline]) hc
    obtain rfl : d = '-' := hmark ▸ hink d (by simp [hline]) hd
    exact ⟨left, right, by simp [hline]⟩
  · rintro ⟨left, right, hline⟩
    exact ⟨left, '-', '-', right, by simp [← hline], by decide, by decide⟩

end ThematicBreak

/-- The filter leaves every delimiter row as it is, and a thematic break exactly when
no spaces or tabs stand between its marks or no four hyphens in a row. -/
theorem filterLine_keeps_structure_iff (row : DelimiterRow) (rule : ThematicBreak) :
    filterLine row.line = row.line ∧
      (filterLine rule.line = rule.line ↔ rule.IsSolid ∨ ¬ "----".toList <:+: rule.line) := by
  constructor
  · exact if_pos row.isExempt_line
  · rw [← rule.isExempt_line_iff, ← rule.hasInnerPair_line_iff]
    by_cases hexempt : isExempt rule.line
    · simp only [hexempt, true_or, iff_true]
      exact if_pos hexempt
    · rw [or_iff_right hexempt, ← setLine_eq_self_iff rule.isSet_line, filterLine,
        if_neg hexempt]
      rfl

/-- A row with a bar at both ends and two cells, the second one with colons. -/
def framedRow : DelimiterRow where
  leading := some []
  cells :=
    [{ left := [' ']
       hyphens := 3
       right := [' ']
       hyphens_pos := by decide
       left_blank := List.forall_mem_singleton.mpr rfl
       right_blank := List.forall_mem_singleton.mpr rfl },
      { opened := true
        hyphens := 2
        closed := true
        hyphens_pos := by decide
        left_blank := by simp
        right_blank := by simp }]
  trailing := some []
  cells_ne := List.cons_ne_nil _ _
  leading_blank := by simp
  trailing_blank := by simp

example :
    framedRow.line = "| --- |:--:|".toList ∧ filterLine framedRow.line = framedRow.line := by
  decide +kernel

/-- A break of hyphens with a space before the last one. -/
def spacedBreak : ThematicBreak where
  mark := '-'
  gaps := [[], [], [], [' '], []]
  indent_le := by decide
  mark_mem := by decide
  three_le := by decide
  gap_blank := by simp

/-- Its first four hyphens are not left as they are. -/
theorem filterLine_spacedBreak_ne :
    spacedBreak.line = "---- -".toList ∧ filterLine spacedBreak.line = "-— -".toList := by
  decide +kernel

end DocPress.Typography
