import DocPress.Compilation.Basic
import DocPress.Proofs.Ranges

/-!
# Where the operations of a compilation lie

The text of a block is empty, and then the block has no operations, or it is a
text with one more line end, and then every operation lies in what stands before
that line end. Compiling a document puts the texts of its blocks one after the
other, so an operation never touches the text of a block other than its own.
-/

namespace DocPress

@[simp]
theorem units_lineEnd : units ['\n'] = 1 := rfl

/-- The last line end of a text that ends a line stands behind all the rest of it. -/
theorem lastLineEnd_append (start : Int) (text : Text) :
    lastLineEnd start (text ++ ['\n']) = start + units text := by
  simp only [lastLineEnd, units_append, units_lineEnd]
  omega

/-! ## Blocks -/

/-- Whether a text that begins at `start` is either empty, without operations, or
ends with a line end, with all operations in what stands before that. -/
inductive FillsLines (start : Int) : Text → List StyleOperation → Prop
  | nothing : FillsLines start [] []
  | lines (text : Text) (operations : List StyleOperation)
      (hlies : ∀ operation ∈ operations, operation.LiesIn start text) :
      FillsLines start (text ++ ['\n']) operations

namespace FillsLines

variable {start : Int} {text : Text} {operations : List StyleOperation}

theorem eq_nil_or_endsLine (hfills : FillsLines start text operations) :
    text = [] ∨ ∃ line, text = line ++ ['\n'] := by
  cases hfills with
  | nothing => exact .inl rfl
  | lines line => exact .inr ⟨line, rfl⟩

theorem liesIn (hfills : FillsLines start text operations) {operation : StyleOperation}
    (hmem : operation ∈ operations) : operation.LiesIn start text := by
  cases hfills with
  | nothing => exact absurd hmem List.not_mem_nil
  | lines line _ hlies => exact (hlies operation hmem).append _

/-- The line end of the text itself is never covered. -/
theorem stop_lt (hfills : FillsLines start text operations) {operation : StyleOperation}
    (hmem : operation ∈ operations) : operation.stop < start + units text := by
  cases hfills with
  | nothing => exact absurd hmem List.not_mem_nil
  | lines line _ hlies =>
      have := (hlies operation hmem).stop_le
      rw [units_append, units_lineEnd]
      omega

/-- One more operation from the start to the last line end. -/
theorem covering (hfills : FillsLines start text operations) (style : Style) :
    FillsLines start text
      (operations ++ StyleOperation.covering start (lastLineEnd start text) style) := by
  cases hfills with
  | nothing =>
      have hempty : ¬ start < lastLineEnd start [] := by
        simp only [lastLineEnd, units_nil]
        omega
      rw [StyleOperation.covering, if_neg hempty]
      exact .nothing
  | lines line _ hlies =>
      refine .lines _ _ fun operation hmem => ?_
      rw [lastLineEnd_append] at hmem
      rcases List.mem_append.mp hmem with hmem | hmem
      · exact hlies operation hmem
      · exact StyleOperation.liesIn_of_mem_covering hmem

/-- The order of the operations does not matter. -/
theorem perm {others : List StyleOperation} (hfills : FillsLines start text operations)
    (hperm : others.Perm operations) : FillsLines start text others := by
  cases hfills with
  | nothing =>
      rw [hperm.eq_nil]
      exact .nothing
  | lines line _ hlies =>
      exact .lines _ _ fun operation hmem => hlies operation (hperm.mem_iff.mp hmem)

/-- Texts that fill lines fill lines together, each with its own operations. -/
theorem append {more : Text} {others : List StyleOperation}
    (hfirst : FillsLines start text operations)
    (hsecond : FillsLines (start + units text) more others) :
    FillsLines start (text ++ more) (operations ++ others) := by
  -- After an empty second text, the line end of the first one stays the last.
  cases hsecond with
  | nothing => simpa using hfirst
  | lines line _ hlies =>
      rw [← List.append_assoc]
      refine .lines _ _ fun operation hmem => ?_
      rcases List.mem_append.mp hmem with hmem | hmem
      · exact (hfirst.liesIn hmem).append line
      · exact (hlies operation hmem).shift

end FillsLines

/-- Inline content with a line end after it. -/
theorem renderInline_fillsLines (start : Int) (content : List Inline) :
    FillsLines start ((renderInline start content).text ++ ['\n'])
      (renderInline start content).operations :=
  .lines _ _ (renderInline_operationsLieIn content start)

/-- Lines of inline content, each with its line end, fill lines. -/
theorem renderLines_fillsLines (start : Int) (lines : List (List Inline)) :
    FillsLines start (renderLines start lines).text (renderLines start lines).operations := by
  induction lines generalizing start with
  | nil => exact .nothing
  | cons line rest ih =>
      have hline := renderInline_fillsLines start line
      have happend := hline.append (ih _)
      simpa [renderLines, Styled.append, Styled.plain] using happend

theorem plainParagraphs_fillsLines (start : Int) (lines : List Text) :
    FillsLines start (plainParagraphs lines) [] := by
  induction lines generalizing start with
  | nil => exact .nothing
  | cons line rest ih =>
      have hline : FillsLines start (decodeEntities line ++ ['\n']) [] :=
        .lines _ _ (by simp)
      simpa [plainParagraphs] using hline.append (ih _)

/-- Every block fills lines. -/
theorem Block.render_fillsLines (start : Int) (block : Block) :
    FillsLines start (block.render start).text (block.render start).operations := by
  unfold Block.render
  cases block.kind with
  | heading =>
      have hinline := renderInline_fillsLines start block.content
      exact (hinline.covering (headingStyle block.depth)).perm List.perm_append_comm
  | paragraph => exact renderInline_fillsLines start block.content
  | list => exact (renderLines_fillsLines start _).covering (listStyle block.ordered)
  | table =>
      dsimp only [renderTable]
      split
      · exact .nothing
      · exact .lines [] [] (by simp)
  | code =>
      refine .lines _ _ fun operation hmem => ?_
      exact StyleOperation.liesIn_of_mem_covering hmem
  | quote =>
      have hplain := plainParagraphs_fillsLines start (DocPress.plainLines block.children)
      exact (hplain.covering quoteParagraphStyle).covering quoteTextStyle
  | rule =>
      refine .lines _ _ fun operation hmem => ?_
      rcases List.mem_append.mp hmem with hmem | hmem
      all_goals exact StyleOperation.liesIn_of_mem_covering hmem
  | other name => exact plainParagraphs_fillsLines start block.plainLines

/-! ## Documents -/

/-- The position where the text of the block with an index begins. -/
def blockStart (start : Int) (blocks : List Block) (index : Nat) : Int :=
  (compile (blocks.take index) start).stop

/-- What the block with an index contributes to a document that begins at `start`. -/
def blockOutput? (start : Int) (blocks : List Block) (index : Nat) : Option BlockOutput :=
  blocks[index]?.map (·.render (blockStart start blocks index))

theorem compile_nil_stop (start : Int) : (compile [] start).stop = start := by
  simp [compile, Compilation.stop, renderBlocks]

/-- What follows a block is compiled for the place where the text of the block ends. -/
theorem compile_cons_stop (start : Int) (block : Block) (rest : List Block) :
    (compile (block :: rest) start).stop =
      (compile rest (start + units (block.render start).text)).stop := by
  simp only [compile, Compilation.stop, renderBlocks, List.flatMap_cons, units_append]
  omega

/-- The outputs of a document are those of its blocks, each for its own place. -/
theorem renderBlocks_getElem? (start : Int) (blocks : List Block) (index : Nat) :
    (renderBlocks start blocks)[index]? = blockOutput? start blocks index := by
  induction blocks generalizing start index with
  | nil => simp [renderBlocks, blockOutput?]
  | cons block rest ih =>
      cases index with
      | zero => simp [renderBlocks, blockOutput?, blockStart, compile_nil_stop]
      | succ index =>
          rw [renderBlocks, List.getElem?_cons_succ, ih]
          simp only [blockOutput?, blockStart, List.getElem?_cons_succ, List.take_succ_cons,
            compile_cons_stop]

/-- Blocks that follow others are rendered from where the others stop. -/
theorem renderBlocks_append (start : Int) (first second : List Block) :
    renderBlocks start (first ++ second) =
      renderBlocks start first ++ renderBlocks (compile first start).stop second := by
  induction first generalizing start with
  | nil => simp [renderBlocks, compile_nil_stop]
  | cons block rest ih =>
      rw [List.cons_append, renderBlocks, renderBlocks, ih, compile_cons_stop, List.cons_append]

/-- The outputs of a document are those of the blocks before an index, that of the
block there, and those of the blocks after it. -/
theorem renderBlocks_split {start : Int} {blocks : List Block} {index : Nat} {output : BlockOutput}
    (houtput : blockOutput? start blocks index = some output) :
    renderBlocks start blocks =
      renderBlocks start (blocks.take index) ++ output ::
        renderBlocks (blockStart start blocks index + units output.text)
          (blocks.drop (index + 1)) := by
  obtain ⟨block, hblock, rfl⟩ := Option.map_eq_some_iff.mp houtput
  obtain ⟨hindex, rfl⟩ := List.getElem?_eq_some_iff.mp hblock
  have happend := renderBlocks_append start (blocks.take index)
    (blocks[index] :: blocks.drop (index + 1))
  rw [List.getElem_cons_drop, List.take_append_drop] at happend
  rw [happend, ← List.getElem_cons_drop hindex, renderBlocks]
  rfl

/-- The text of a document around the text of one of its blocks. -/
theorem compile_text_split {start : Int} {blocks : List Block} {index : Nat} {output : BlockOutput}
    (houtput : blockOutput? start blocks index = some output) :
    ∃ after, (compile blocks start).text =
      (compile (blocks.take index) start).text ++ output.text ++ after := by
  have hsplit := renderBlocks_split houtput
  simp only [compile]
  rw [hsplit, List.flatMap_append, List.flatMap_cons, ← List.append_assoc]
  exact ⟨_, rfl⟩

theorem blockOutput?_fillsLines {start : Int} {blocks : List Block} {index : Nat}
    {output : BlockOutput} (houtput : blockOutput? start blocks index = some output) :
    FillsLines (blockStart start blocks index) output.text output.operations := by
  obtain ⟨block, _, rfl⟩ := Option.map_eq_some_iff.mp houtput
  exact block.render_fillsLines _

/-- What lies in the text of a block lies in the text of the document. -/
theorem liesIn_compile {start : Int} {blocks : List Block} {index : Nat} {output : BlockOutput}
    (houtput : blockOutput? start blocks index = some output) {operation : StyleOperation}
    (hmem : operation ∈ output.operations) :
    operation.LiesIn start (compile blocks start).text := by
  obtain ⟨after, htext⟩ := compile_text_split houtput
  rw [htext]
  exact ((blockOutput?_fillsLines houtput).liesIn hmem).shift.append after

/-- A block ends before the blocks after it begin. -/
theorem blockStart_add_units_le {start : Int} {blocks : List Block} {index later : Nat}
    {output : BlockOutput} (houtput : blockOutput? start blocks index = some output)
    (hlater : index < later) :
    blockStart start blocks index + units output.text ≤ blockStart start blocks later := by
  -- The block is also one of the blocks before the later one, and lies in their text.
  have htake : blockOutput? start (blocks.take later) index = some output := by
    rw [← houtput, blockOutput?, blockOutput?, blockStart, blockStart, List.take_take,
      List.getElem?_take_of_lt hlater, Nat.min_eq_left (Nat.le_of_lt hlater)]
  obtain ⟨after, htext⟩ := compile_text_split htake
  rw [List.take_take, Nat.min_eq_left (Nat.le_of_lt hlater)] at htext
  simp only [blockStart, Compilation.stop, htext, units_append]
  simp only [compile]
  omega

/-- No block ends behind the end of the document. -/
theorem blockStart_add_units_le_stop {start : Int} {blocks : List Block} {index : Nat}
    {output : BlockOutput} (houtput : blockOutput? start blocks index = some output) :
    blockStart start blocks index + units output.text ≤ (compile blocks start).stop := by
  obtain ⟨after, htext⟩ := compile_text_split houtput
  simp only [blockStart, Compilation.stop, htext, units_append]
  simp only [compile]
  omega

/-- The order in which operations are sent leaves none of them out. -/
theorem mem_bulletsFirst {operation : StyleOperation} {operations : List StyleOperation} :
    operation ∈ bulletsFirst operations ↔ operation ∈ operations := by
  simp only [bulletsFirst, List.mem_append, List.mem_filter]
  cases operation.style.isBullets <;> simp

/-- Every operation of a compilation is that of one of its blocks. -/
theorem mem_compile_operations {start : Int} {blocks : List Block} {operation : StyleOperation} :
    operation ∈ (compile blocks start).operations ↔
      ∃ index output, blockOutput? start blocks index = some output ∧
        operation ∈ output.operations := by
  simp only [compile, mem_bulletsFirst, List.mem_flatMap]
  constructor
  · rintro ⟨output, houtput, hmem⟩
    obtain ⟨index, hindex⟩ := List.mem_iff_getElem?.mp houtput
    rw [renderBlocks_getElem?] at hindex
    exact ⟨index, output, hindex, hmem⟩
  · rintro ⟨index, output, houtput, hmem⟩
    rw [← renderBlocks_getElem?] at houtput
    exact ⟨output, List.mem_iff_getElem?.mpr ⟨index, houtput⟩, hmem⟩

/-! ## Requests -/

theorem StyleOperation.toRequest_name_ne (operation : StyleOperation) :
    operation.toRequest.name ≠ "insertText" := by
  unfold StyleOperation.toRequest
  cases operation.style <;> simp [Request.name, Request.styleParagraphs, Request.styleText]

/-- A compilation without text has no operations either, and so no requests. -/
theorem compile_requests_eq_nil_iff (blocks : List Block) (start : Int) :
    (compile blocks start).requests = [] ↔ (compile blocks start).text = [] := by
  constructor
  · intro hnil
    cases htext : (compile blocks start).text with
    | nil => rfl
    | cons c rest => simp [Compilation.requests, htext] at hnil
  · intro htext
    have hnone : (compile blocks start).operations = [] := by
      apply List.eq_nil_iff_forall_not_mem.mpr
      intro operation hmem
      obtain ⟨index, output, houtput, hmem⟩ := mem_compile_operations.mp hmem
      -- An operation would have to cover a position of a text that has none.
      have hlies := liesIn_compile houtput hmem
      have hlt := hlies.start_lt_stop
      have hle := hlies.start_le
      have hstop := hlies.stop_le
      rw [htext, units_nil] at hstop
      omega
    simp [Compilation.requests, htext, hnone]

/-- A position that an operation covers lies before or behind every other block. -/
theorem beside_of_covers {start : Int} {blocks : List Block} {index other : Nat}
    {output otherOutput : BlockOutput} (houtput : blockOutput? start blocks index = some output)
    (hother : blockOutput? start blocks other = some otherOutput) (hne : other ≠ index)
    {operation : StyleOperation} (hmem : operation ∈ output.operations) {position : Int}
    (hcovers : operation.covers position) :
    position < blockStart start blocks other ∨
      blockStart start blocks other + units otherOutput.text ≤ position := by
  have hfills := blockOutput?_fillsLines houtput
  have hstart := (hfills.liesIn hmem).start_le
  have hstop := hfills.stop_lt hmem
  simp only [StyleOperation.covers, Bool.and_eq_true, decide_eq_true_eq] at hcovers
  rcases Nat.lt_or_gt_of_ne hne with hbefore | hafter
  · have := blockStart_add_units_le hother hbefore
    omega
  · have := blockStart_add_units_le houtput hafter
    omega

/-- In a compilation no operation leaves the text of its block, covers the line end
of that text, or begins or ends inside a character; the text of a block is empty or
ends with a line end; no operation of one block covers a position of another one;
and the requests are none where there is no text, or one insertion and then styles
alone. -/
theorem compile_operations_stay_in_blocks (blocks : List Block) (start : Int) :
    let result := compile blocks start
    (∀ operation ∈ result.operations,
      start ≤ operation.start ∧ operation.start < operation.stop ∧ operation.stop < result.stop ∧
      IsBoundary start result.text operation.start ∧
      IsBoundary start result.text operation.stop ∧
      ∃ index output, blockOutput? start blocks index = some output ∧
        operation ∈ output.operations) ∧
    (∀ index output, blockOutput? start blocks index = some output →
      (output.text = [] ∨ ∃ line, output.text = line ++ ['\n']) ∧
      (∃ before after, result.text = before ++ output.text ++ after ∧
        blockStart start blocks index = start + units before) ∧
      ∀ operation ∈ output.operations,
        operation ∈ result.operations ∧
        blockStart start blocks index ≤ operation.start ∧
        operation.stop < blockStart start blocks index + units output.text ∧
        ∀ other otherOutput position, other ≠ index →
          blockOutput? start blocks other = some otherOutput → operation.covers position →
          position < blockStart start blocks other ∨
            blockStart start blocks other + units otherOutput.text ≤ position) ∧
    (result.requests = [] ↔ result.text = []) ∧
    (result.text ≠ [] → ∃ styles, result.requests = .insertText start result.text :: styles ∧
      ∀ request ∈ styles, request.name ≠ "insertText") := by
  refine ⟨?_, ?_, compile_requests_eq_nil_iff blocks start, ?_⟩
  · intro operation hmem
    obtain ⟨index, output, houtput, hmem⟩ := mem_compile_operations.mp hmem
    have hlies := liesIn_compile houtput hmem
    refine ⟨hlies.start_le, hlies.start_lt_stop, ?_, hlies.isBoundary_start,
      hlies.isBoundary_stop, index, output, houtput, hmem⟩
    have hblock := (blockOutput?_fillsLines houtput).stop_lt hmem
    have hstop := blockStart_add_units_le_stop houtput
    omega
  · intro index output houtput
    have hfills := blockOutput?_fillsLines houtput
    obtain ⟨after, htext⟩ := compile_text_split houtput
    refine ⟨hfills.eq_nil_or_endsLine, ⟨_, after, htext, rfl⟩, ?_⟩
    intro operation hmem
    refine ⟨mem_compile_operations.mpr ⟨index, output, houtput, hmem⟩,
      (hfills.liesIn hmem).start_le, hfills.stop_lt hmem, ?_⟩
    intro other otherOutput position hne hother hcovers
    exact beside_of_covers houtput hother hne hmem hcovers
  · intro htext
    refine ⟨(compile blocks start).operations.map StyleOperation.toRequest, ?_, ?_⟩
    · rw [Compilation.requests, if_neg (by simpa using htext)]
      rfl
    · intro request hmem
      obtain ⟨operation, _, rfl⟩ := List.mem_map.mp hmem
      exact operation.toRequest_name_ne

end DocPress
