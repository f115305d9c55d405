import DocPress.Proofs.BlockRanges

/-!
# Compiling for another position and in parts

A document can be compiled for any position, and what comes out depends on the position
in one way only: every range and every anchor moves along with it. The text, the styles,
the cells of the tables, and the order of everything stay as they are.

A document can also be compiled in parts, each for the position where the part before it
ends. The texts and the tables of the parts follow each other. The operations do not quite,
since the bullets of all parts come first.
-/

namespace DocPress

/-- The same change of style some way further on. -/
def StyleOperation.moveBy (distance : Int) (operation : StyleOperation) : StyleOperation :=
  { operation with start := operation.start + distance, stop := operation.stop + distance }

/-- The same table some way further on. -/
def TableDescriptor.moveBy (distance : Int) (table : TableDescriptor) : TableDescriptor :=
  { table with anchor := table.anchor.map (· + distance) }

/-- The same compilation some way further on. -/
def Compilation.moveBy (distance : Int) (compilation : Compilation) : Compilation :=
  { compilation with
    operations := compilation.operations.map (·.moveBy distance)
    tables := compilation.tables.map (·.moveBy distance)
    start := compilation.start + distance }

theorem StyleOperation.covering_add (start stop distance : Int) (style : Style) :
    covering (start + distance) (stop + distance) style =
      (covering start stop style).map (·.moveBy distance) := by
  unfold covering
  by_cases hlt : start < stop
  · rw [if_pos hlt, if_pos (by omega)]
    rfl
  · rw [if_neg hlt, if_neg (by omega)]
    rfl

/-! ## Inline content -/

namespace Styled

/-- The same styled text some way further on. -/
def moveBy (distance : Int) (styled : Styled) : Styled :=
  { styled with operations := styled.operations.map (·.moveBy distance) }

variable {distance : Int}

theorem moveBy_plain (text : Text) : (plain text).moveBy distance = plain text := rfl

theorem moveBy_append (first second : Styled) :
    (first.append second).moveBy distance =
      (first.moveBy distance).append (second.moveBy distance) := by
  simp [append, moveBy]

theorem moveBy_wrap (styled : Styled) (start : Int) (style : Style) :
    (styled.wrap start style).moveBy distance =
      (styled.moveBy distance).wrap (start + distance) style := by
  have hstop : start + distance + units styled.text = start + units styled.text + distance := by
    omega
  simp only [wrap, moveBy, List.map_append, hstop, StyleOperation.covering_add]

end Styled

mutual

/-- Rendered further on, a node has the same text and its operations further on. -/
theorem Inline.render_add :
    ∀ (node : Inline) (start distance : Int),
      node.render (start + distance) = (node.render start).moveBy distance
  | ⟨kind, text, children, href, checked⟩, start, distance => by
      have hchildren := renderInline_add children start distance
      cases kind with
      | strong | emphasis | strikethrough =>
          simp only [Inline.render, hchildren, Styled.moveBy_wrap]
      | link =>
          match href with
          | none | some [] => rfl
          | some (c :: destination) =>
              simp only [Inline.render, Styled.moveBy_wrap, Styled.moveBy_plain]
      | codeSpan => simp only [Inline.render, Styled.moveBy_wrap, Styled.moveBy_plain]
      | other name =>
          unfold Inline.render
          dsimp only
          split
          · rfl
          · exact hchildren
      | text | softBreak | hardBreak | checkbox => rfl

theorem renderInline_add :
    ∀ (nodes : List Inline) (start distance : Int),
      renderInline (start + distance) nodes = (renderInline start nodes).moveBy distance
  | [], _, _ => rfl
  | node :: rest, start, distance => by
      have hnext : start + distance + units (node.render start).text =
          start + units (node.render start).text + distance := by omega
      have hrest := renderInline_add rest (start + units (node.render start).text) distance
      have htext : ((node.render start).moveBy distance).text = (node.render start).text := rfl
      simp only [renderInline, Inline.render_add node, htext, hnext, hrest, Styled.moveBy_append]

end

/-! ## Blocks -/

/-- Lines follow one another at the same distances wherever they begin. -/
theorem renderLines_add (lines : List (List Inline)) (start distance : Int) :
    renderLines (start + distance) lines = (renderLines start lines).moveBy distance := by
  induction lines generalizing start with
  | nil => rfl
  | cons line rest ih =>
      have hline : ((renderInline start line).moveBy distance).append (.plain ['\n']) =
          ((renderInline start line).append (.plain ['\n'])).moveBy distance := by
        rw [Styled.moveBy_append]
        rfl
      have hnext (first : Styled) : start + distance + units (first.moveBy distance).text =
          start + units first.text + distance := by
        change start + distance + units first.text = _
        omega
      rw [renderLines, renderInline_add, hline, hnext, ih]
      exact (Styled.moveBy_append _ _).symm

theorem lastLineEnd_add (start distance : Int) (text : Text) :
    lastLineEnd (start + distance) text = lastLineEnd start text + distance := by
  simp only [lastLineEnd]
  omega

/-- The same output of a block some way further on. -/
def BlockOutput.moveBy (distance : Int) (output : BlockOutput) : BlockOutput :=
  { output with
    operations := output.operations.map (·.moveBy distance)
    table := output.table.map (·.moveBy distance) }

/-- Rendered further on, a block gives the same output further on. -/
theorem Block.render_add (block : Block) (start distance : Int) :
    block.render (start + distance) = (block.render start).moveBy distance := by
  have hstop (length : Nat) : start + distance + length = start + length + distance := by omega
  unfold Block.render
  cases block.kind with
  | heading =>
      simp [renderHeading, renderInline_add, lastLineEnd_add, StyleOperation.covering_add,
        BlockOutput.moveBy, Styled.moveBy]
  | paragraph => simp [renderParagraph, renderInline_add, BlockOutput.moveBy, Styled.moveBy]
  | list =>
      simp [renderList, renderLines_add, lastLineEnd_add, StyleOperation.covering_add,
        BlockOutput.moveBy, Styled.moveBy]
  | table =>
      unfold renderTable
      cases TableDescriptor.ofRows? block.header block.rows with
      | none => rfl
      | some table => rfl
  | code => simp [renderCode, hstop, StyleOperation.covering_add, BlockOutput.moveBy]
  | quote =>
      simp [renderQuote, lastLineEnd_add, StyleOperation.covering_add, BlockOutput.moveBy]
  | rule => simp [renderRule, hstop, StyleOperation.covering_add, BlockOutput.moveBy]
  | other name => rfl

/-! ## Documents -/

/-- Each block begins where the block before it ends, wherever the first one begins. -/
theorem renderBlocks_add (blocks : List Block) (start distance : Int) :
    renderBlocks (start + distance) blocks =
      (renderBlocks start blocks).map (·.moveBy distance) := by
  induction blocks generalizing start with
  | nil => rfl
  | cons block rest ih =>
      have htext : ((block.render start).moveBy distance).text = (block.render start).text := rfl
      -- The next block begins further on by the same distance.
      have hnext : start + distance + units (block.render start).text =
          start + units (block.render start).text + distance := by omega
      simp only [renderBlocks, Block.render_add, htext, hnext, ih, List.map_cons]

/-- Moving an operation does not change whether it comes first. -/
theorem bulletsFirst_map_moveBy (operations : List StyleOperation) (distance : Int) :
    bulletsFirst (operations.map (·.moveBy distance)) =
      (bulletsFirst operations).map (·.moveBy distance) := by
  simp only [bulletsFirst, List.map_append, List.filter_map]
  rfl

/-- Compiled for a position further on, a document gives the same compilation further on:
the same text, the same operations in the same order with the same styles, and the same
tables, but every range and every anchor moved by the distance between the positions. -/
theorem compile_add (blocks : List Block) (start distance : Int) :
    compile blocks (start + distance) = (compile blocks start).moveBy distance := by
  have htexts : ((renderBlocks start blocks).map (·.moveBy distance)).flatMap BlockOutput.text =
      (renderBlocks start blocks).flatMap BlockOutput.text := by
    rw [List.flatMap_map]
    rfl
  have hoperations :
      ((renderBlocks start blocks).map (·.moveBy distance)).flatMap BlockOutput.operations =
        ((renderBlocks start blocks).flatMap BlockOutput.operations).map (·.moveBy distance) := by
    rw [List.flatMap_map, List.map_flatMap]
    rfl
  have htables :
      ((renderBlocks start blocks).map (·.moveBy distance)).filterMap BlockOutput.table =
        ((renderBlocks start blocks).filterMap BlockOutput.table).map (·.moveBy distance) := by
    rw [List.filterMap_map, List.map_filterMap]
    rfl
  simp only [compile, Compilation.moveBy, renderBlocks_add, htexts, hoperations, htables,
    bulletsFirst_map_moveBy]

/-! ## Parts of documents -/

namespace Compilation

/-- The bullets that a compilation sets. -/
def bullets (compilation : Compilation) : List StyleOperation :=
  compilation.operations.filter (·.style.isBullets)

/-- The operations of a compilation that set no bullets. -/
def otherOperations (compilation : Compilation) : List StyleOperation :=
  compilation.operations.filter (!·.style.isBullets)

end Compilation

/-- Bringing the bullets of a compilation first does not change which they are. -/
theorem compile_bullets (blocks : List Block) (start : Int) :
    (compile blocks start).bullets =
      ((renderBlocks start blocks).flatMap BlockOutput.operations).filter (·.style.isBullets) := by
  simp [compile, Compilation.bullets, bulletsFirst, List.filter_filter]

/-- Nor does it change which are the others. -/
theorem compile_otherOperations (blocks : List Block) (start : Int) :
    (compile blocks start).otherOperations =
      ((renderBlocks start blocks).flatMap BlockOutput.operations).filter
        (!·.style.isBullets) := by
  simp [compile, Compilation.otherOperations, bulletsFirst, List.filter_filter]

/-- Blocks compiled together give what they give compiled in two parts, the second one for
the position where the first one ends: the text of the first part and then that of the
second, the tables likewise, and the bullets of both parts before their other operations. -/
theorem compile_append (first second : List Block) (start : Int) :
    let front := compile first start
    let back := compile second front.stop
    compile (first ++ second) start =
      { text := front.text ++ back.text
        operations := front.bullets ++ back.bullets ++ front.otherOperations ++ back.otherOperations
        tables := front.tables ++ back.tables
        start } := by
  intro front back
  have hoperations : (compile (first ++ second) start).operations =
      front.bullets ++ back.bullets ++ front.otherOperations ++ back.otherOperations := by
    simp only [front, back, compile_bullets, compile_otherOperations]
    simp only [compile, renderBlocks_append, bulletsFirst, List.flatMap_append,
      List.filter_append, List.append_assoc]
  rw [← hoperations]
  simp only [front, back, compile, renderBlocks_append, List.flatMap_append,
    List.filterMap_append]

end DocPress
