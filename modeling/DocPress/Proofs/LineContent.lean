import Mathlib.Data.List.TakeWhile
import DocPress.Proofs.Folding.Leaves
import DocPress.Proofs.NestedCode

/-!
# What the lines of a block show

Blocks that are shown line by line lose nothing by it, however deeply they are nested. Read
one after the other, the lines of a block or of a list item have the characters of the block
or the item in the order of the document; only blanks and line ends may differ, since a line
has no line ends and two paragraphs of an item are put on one line with a blank between them.
A line of an item that has been begun is kept until other blocks need lines of their own, and
at the end of the item.

Nothing is said of how the characters are divided into lines, except that an item has one at
least.
-/

namespace DocPress

/-! ## The text of a block -/

mutual

/-- The text of a block in the order of the document. -/
def Block.wholeText : Block → Text
  | ⟨kind, content, _, _, items, header, rows, text, children⟩ =>
      match kind with
      | .paragraph | .heading => plainText content
      | .code => text
      | .list => itemsText items
      | .table => (header :: rows).flatMap rowLine
      | .quote | .rule | .other _ => if children.isEmpty then text else blocksText children

/-- The text of blocks, one block after the other. -/
def blocksText : List Block → Text
  | [] => []
  | block :: rest => block.wholeText ++ blocksText rest

/-- The text of the items of a list. -/
def itemsText : List (List Block) → Text
  | [] => []
  | item :: rest => blocksText item ++ itemsText rest

end

/-! ## Texts without blanks and line ends -/

/-- A text less its blanks and line ends. -/
def withoutGaps (text : Text) : Text :=
  text.filter fun c => c != ' ' && c != '\n'

@[simp]
theorem withoutGaps_append (first second : Text) :
    withoutGaps (first ++ second) = withoutGaps first ++ withoutGaps second :=
  List.filter_append ..

theorem withoutGaps_cons_of_gap {c : Char} (hc : c = ' ' ∨ c = '\n') (rest : Text) :
    withoutGaps (c :: rest) = withoutGaps rest := by
  rcases hc with rfl | rfl <;> rfl

theorem withoutGaps_eq_nil {text : Text} (hends : ∀ c ∈ text, c = '\n') :
    withoutGaps text = [] := by
  rw [withoutGaps, List.filter_eq_nil_iff]
  intro c hmem
  simp [hends c hmem]

/-- Joining lines puts line ends between them and nothing else. -/
theorem withoutGaps_joinLines (lines : List Text) :
    withoutGaps (joinLines lines) = withoutGaps lines.flatten := by
  induction lines with
  | nil => rfl
  | cons line rest ih =>
      cases rest with
      | nil => rw [List.flatten_singleton]; rfl
      | cons next others =>
          rw [joinLines] at ih
          rw [joinLines, joinWith_cons_cons, List.append_assoc, List.singleton_append,
            withoutGaps_append, withoutGaps_cons_of_gap (.inr rfl), ih, ← withoutGaps_append]
          rfl

theorem withoutGaps_textLines (text : Text) :
    withoutGaps (textLines text).flatten = withoutGaps text := by
  rw [← withoutGaps_joinLines, joinLines_textLines]

/-- The line end at the end of a code block is no character of its code. -/
theorem withoutGaps_dropTrailingOnce (text : Text) :
    withoutGaps (dropTrailingOnce '\n' text) = withoutGaps text := by
  fun_induction dropTrailingOnce '\n' text with
  | case1 => rfl
  | case2 => rfl
  | case3 last hlast => rfl
  | case4 first rest hrest ih =>
      rw [← List.singleton_append, withoutGaps_append, ih, ← withoutGaps_append,
        List.singleton_append]

/-- All the line ends at the end of a raw text go, and nothing besides them. -/
theorem withoutGaps_dropTrailingRun (text : Text) :
    withoutGaps (dropTrailingRun '\n' text) = withoutGaps text := by
  -- What is dropped is the run of line ends at the front of the reversed text.
  have hrun : withoutGaps (text.reverse.takeWhile (· == '\n')).reverse = [] := by
    refine withoutGaps_eq_nil fun c hmem => ?_
    simpa using List.mem_takeWhile_imp (List.mem_reverse.mp hmem)
  calc withoutGaps (dropTrailingRun '\n' text)
      = withoutGaps (dropTrailingRun '\n' text ++
          (text.reverse.takeWhile (· == '\n')).reverse) := by
        rw [withoutGaps_append, hrun, List.append_nil]
    _ = withoutGaps text := by
        rw [dropTrailingRun, ← List.reverse_append, List.takeWhile_append_dropWhile,
          List.reverse_reverse]

/-- The lines of a raw text have its characters, and none if the text is empty. -/
theorem withoutGaps_rawLines (text : Text) :
    withoutGaps (rawLines text).flatten = withoutGaps text := by
  rw [← withoutGaps_dropTrailingRun text, rawLines]
  split
  next hempty => rw [List.isEmpty_iff.mp hempty]; rfl
  next => exact withoutGaps_textLines _

/-! ## The text of lines -/

/-- What lines show, one after the other. -/
def linesText (lines : List (List Inline)) : Text :=
  lines.flatMap plainText

@[simp]
theorem linesText_append (first second : List (List Inline)) :
    linesText (first ++ second) = linesText first ++ linesText second :=
  List.flatMap_append

@[simp]
theorem linesText_singleton (line : List Inline) : linesText [line] = plainText line :=
  List.flatMap_singleton ..

/-- A line that has been begun is given out, and an empty one shows nothing anyway. -/
theorem linesText_lineOf (line : List Inline) : linesText (lineOf line) = plainText line := by
  cases line with
  | nil => rfl
  | cons node rest => exact linesText_singleton _

theorem linesText_map_textLine (texts : List Text) :
    linesText (texts.map textLine) = texts.flatten := by
  rw [linesText, List.flatMap_map, List.flatten_eq_flatMap]
  exact List.flatMap_congr fun text _ => plainText_textLine text

/-- A line that is continued shows what it showed and then the rest. -/
theorem withoutGaps_continueLine (line content : List Inline) :
    withoutGaps (plainText (continueLine line content)) =
      withoutGaps (plainText line) ++ withoutGaps (plainText content) := by
  cases line with
  | nil => rfl
  | cons node rest =>
      rw [continueLine, if_neg (by simp), plainText_append, plainText_append, plainText_textLine,
        withoutGaps_append, withoutGaps_append, withoutGaps_cons_of_gap (.inl rfl)]
      simp [withoutGaps]

/-! ## Blocks and items -/

/-- A block that goes on in the line of an item is nothing but its content. -/
theorem Block.wholeText_of_isFlowing {block : Block} (hflow : block.kind.isFlowing = true) :
    block.wholeText = plainText block.content := by
  obtain ⟨kind, content, depth, ordered, items, header, rows, text, children⟩ := block
  cases kind with
  | heading | paragraph => simp [Block.wholeText]
  | list | table | code | quote | rule | other name => exact absurd hflow (by simp [Kind.isFlowing])

-- The recursion is that of the lines. For an item the line begun so far is arbitrary: it is what
-- the blocks before have left pending.
mutual

/-- The lines of a block show its text. -/
theorem Block.withoutGaps_lines :
    ∀ block : Block, withoutGaps (linesText block.lines) = withoutGaps block.wholeText
  | ⟨kind, content, depth, ordered, items, header, rows, text, children⟩ => by
      have hchildren := withoutGaps_blocksLines children
      have hraw : withoutGaps (linesText ((rawLines text).map textLine)) = withoutGaps text := by
        rw [linesText_map_textLine, withoutGaps_rawLines]
      cases kind with
      | heading | paragraph => simp [Block.lines, Block.wholeText]
      | code => simp [Block.lines, Block.wholeText, withoutGaps_dropTrailingOnce]
      | list => simpa [Block.lines, Block.wholeText] using withoutGaps_itemsLines items
      -- Header and rows are lines alike, so that the table is the text of all its rows.
      | table =>
          have hrows : (header :: rows).map (fun row => textLine (rowLine row)) =
              ((header :: rows).map rowLine).map textLine := by
            rw [List.map_map]
            rfl
          rw [Block.lines, Block.wholeText, hrows, linesText_map_textLine, List.flatMap_def]
      | quote | rule | other name =>
          rw [Block.lines, Block.wholeText]
          split
          next => exact hraw
          next => exact hchildren

/-- Blocks one after the other show their texts, each made plain line by line. -/
theorem withoutGaps_blocksLines :
    ∀ blocks : List Block,
      withoutGaps (linesText (blocksLines blocks)) = withoutGaps (blocksText blocks)
  | [] => rfl
  | block :: rest => by
      have hblock : linesText (block.lines.map (textLine ∘ plainText)) = linesText block.lines := by
        rw [← List.map_map, linesText_map_textLine, linesText, List.flatMap_def]
      rw [blocksLines, blocksText, linesText_append, withoutGaps_append, withoutGaps_append,
        hblock, block.withoutGaps_lines, withoutGaps_blocksLines rest]

/-- The lines of an item show the line begun before it and then the text of the item. -/
theorem withoutGaps_itemLines :
    ∀ (item : List Block) (line : List Inline) (begun : Bool),
      withoutGaps (linesText (itemLines line begun item)) =
        withoutGaps (plainText line) ++ withoutGaps (blocksText item)
  | [], line, begun => by
      rw [itemLines, blocksText]
      split
      next hnone =>
        rw [Bool.and_eq_true, List.isEmpty_iff] at hnone
        rw [hnone.1]
        rfl
      next => rw [linesText_singleton]; exact (List.append_nil _).symm
  | block :: rest, line, begun => by
      rw [itemLines, blocksText, withoutGaps_append]
      split
      -- The block goes on in the line begun, which stays pending.
      next hflow =>
        rw [withoutGaps_itemLines rest, withoutGaps_continueLine,
          Block.wholeText_of_isFlowing hflow, List.append_assoc]
      next =>
        -- The block has lines of its own: the line begun comes first, and none is pending after.
        dsimp only
        rw [linesText_append, linesText_append, withoutGaps_append, withoutGaps_append,
          linesText_lineOf, block.withoutGaps_lines, withoutGaps_itemLines rest, List.append_assoc]
        rfl

theorem withoutGaps_itemsLines :
    ∀ items : List (List Block),
      withoutGaps (linesText (itemsLines items)) = withoutGaps (itemsText items)
  | [] => rfl
  | item :: rest => by
      rw [itemsLines, itemsText, linesText_append, withoutGaps_append, withoutGaps_append,
        withoutGaps_itemLines item, withoutGaps_itemsLines rest]
      rfl

end

/-- An item without lines so far gets one at the end at the latest. -/
theorem itemLines_ne_nil (item : List Block) {line : List Inline} {begun : Bool}
    (hnone : begun = false ∨ line ≠ []) : itemLines line begun item ≠ [] := by
  induction item generalizing line begun with
  | nil =>
      rw [itemLines]
      rcases hnone with rfl | hline
      · simp
      · simp [hline]
  | cons block rest ih =>
      rw [itemLines]
      split
      next =>
        refine ih (hnone.imp_right fun hline => ?_)
        simp [continueLine, hline]
      next =>
        dsimp only
        -- If nothing was given out here, no line had been begun, and the rest starts as this item
        -- did.
        intro hlines
        obtain ⟨hnow, hlater⟩ := List.append_eq_nil_iff.mp hlines
        have hbegun : begun = false := hnone.resolve_right fun hline => by
          simp [lineOf, hline] at hnow
        exact ih (.inl (by rw [hnow, hbegun]; rfl)) hlater

/-- An item has a line at least, and its lines, read one after the other, have the characters
of the item in the order of the document, spaces and line ends apart. So have the lines of any
block shown as plain text. -/
theorem lines_show_wholeText :
    (∀ item : List Block, itemLines [] false item ≠ [] ∧
      withoutGaps ((itemLines [] false item).flatMap plainText) =
        withoutGaps (blocksText item)) ∧
    ∀ block : Block, withoutGaps block.plainLines.flatten = withoutGaps block.wholeText := by
  refine ⟨fun item => ⟨itemLines_ne_nil item (.inl rfl), ?_⟩, fun block => ?_⟩
  · exact withoutGaps_itemLines item [] false
  · rw [Block.plainLines, ← List.flatMap_def]
    exact block.withoutGaps_lines

end DocPress
