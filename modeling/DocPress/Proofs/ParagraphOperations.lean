import DocPress.Proofs.BlockRanges
import DocPress.Proofs.MemoryDocument.Paragraphs

/-!
# Which paragraphs the operation of a list or a quote reaches

A list becomes bulleted, and a quote indented, by one operation over the whole block. It
changes every paragraph of which it covers a position. The last line end of the block is
never covered, so the operation reaches every paragraph but one: an empty paragraph at
the end of the block has no other position. A block that consists of this paragraph
alone has no operation at all.
-/

namespace DocPress

open MemoryDocument (IsLines isLines_append_lineEnd)

/-- The change of paragraphs that a list or a quote makes; other blocks make none over
their whole text. -/
def Block.paragraphStyle? (block : Block) : Option Style :=
  match block.kind with
  | .list => some (listStyle block.ordered)
  | .quote => some quoteParagraphStyle
  | _ => none

/-- Whether a line of a text, with its line end, stands between two parts of the text. -/
structure IsParagraphIn (text before line after : Text) : Prop where
  text_eq : text = before ++ (line ++ '\n' :: after)
  before_isLines : IsLines before
  lineEnd_notMem : '\n' ∉ line

/-- Whether an operation covers a position of the paragraph that consists of a line and
its line end, after what stands before it in a text that begins at `start`. -/
def StyleOperation.Reaches (operation : StyleOperation) (start : Int) (before line : Text) : Prop :=
  ∃ position, start + units before ≤ position ∧
    position < start + units (before ++ (line ++ ['\n'])) ∧ operation.covers position

/-- Whether the last paragraph of a text is empty. -/
def EndsEmpty (text : Text) : Prop :=
  text = ['\n'] ∨ ['\n', '\n'] <:+ text

/-- A text ends with an empty paragraph just when one stands after all the others. -/
theorem endsEmpty_iff {text : Text} :
    EndsEmpty text ↔ ∃ before, IsParagraphIn text before [] [] := by
  constructor
  · rintro (rfl | ⟨before, rfl⟩)
    · exact ⟨[], rfl, .nil, List.not_mem_nil⟩
    · exact ⟨before ++ ['\n'], by simp, isLines_append_lineEnd before, List.not_mem_nil⟩
  · rintro ⟨before, rfl, hbefore, -⟩
    rcases hbefore.eq_nil_or_endsLine with rfl | ⟨line, rfl⟩
    · exact .inl rfl
    · exact .inr ⟨line, by simp⟩

/-! ## The operation over a block -/

/-- An operation over a text without its last line end reaches all paragraphs but an
empty one at the end. -/
theorem reaches_iff {start : Int} {body before line after : Text} {style : Style}
    (hparagraph : IsParagraphIn (body ++ ['\n']) before line after) :
    StyleOperation.Reaches ⟨start, start + units body, style⟩ start before line ↔
      line ≠ [] ∨ after ≠ [] := by
  have hunits := congrArg units hparagraph.text_eq
  have hline : line ≠ [] ↔ 0 < units line :=
    ⟨units_pos, fun hpos hnil => by simp [hnil] at hpos⟩
  have hafter : after ≠ [] ↔ 0 < units after :=
    ⟨units_pos, fun hpos hnil => by simp [hnil] at hpos⟩
  have hend : charUnits '\n' = 1 := rfl
  -- With the lengths of the two ways to cut the text, the rest is a matter of order.
  simp only [units_append, units_cons, units_nil, hend] at hunits
  simp only [StyleOperation.Reaches, StyleOperation.covers, hline, hafter, units_append,
    units_cons, units_nil, hend, Bool.and_eq_true, decide_eq_true_eq]
  constructor
  · rintro ⟨position, hfirst, hlast, hstart, hstop⟩
    omega
  · intro hpos
    refine ⟨start + units before, ?_⟩
    omega

namespace Block

variable {block : Block} {style : Style} {start : Int}

/-- The operation of a block with a visible text reaches over all of the text but its last line
end. -/
theorem paragraphOperation_mem (hstyle : block.paragraphStyle? = some style) {body : Text}
    (hbody : body ≠ []) (htext : (block.render start).text = body ++ ['\n']) :
    ⟨start, start + units body, style⟩ ∈ (block.render start).operations := by
  have hcovering : ⟨start, start + units body, style⟩ ∈
      StyleOperation.covering start (lastLineEnd start (block.render start).text) style := by
    rw [htext, lastLineEnd_append]
    have := units_pos hbody
    exact StyleOperation.mem_covering.mpr ⟨by omega, rfl⟩
  -- It is the last of the operations of a list and the first of those of a quote.
  unfold paragraphStyle? at hstyle
  unfold render at hcovering ⊢
  split at hstyle
  next hkind =>
    obtain rfl := Option.some.inj hstyle
    rw [hkind] at hcovering ⊢
    exact List.mem_append_right _ hcovering
  next hkind =>
    obtain rfl := Option.some.inj hstyle
    rw [hkind] at hcovering ⊢
    exact List.mem_append_left _ hcovering
  next => exact absurd hstyle (by simp)

/-- No operation of a block reaches an empty paragraph at its end. -/
theorem not_reaches_last {operation : StyleOperation} {before : Text}
    (hmem : operation ∈ (block.render start).operations)
    (hlast : IsParagraphIn (block.render start).text before [] []) :
    ¬ operation.Reaches start before [] := by
  rintro ⟨position, hfirst, -, hcovers⟩
  -- Every operation stops before the last line end, where the empty paragraph begins.
  have hstop := (block.render_fillsLines start).stop_lt hmem
  rw [hlast.text_eq, units_append, List.nil_append, units_lineEnd] at hstop
  simp only [StyleOperation.covers, Bool.and_eq_true, decide_eq_true_eq] at hcovers
  omega

/-- A block that is one empty paragraph has no operations at all. -/
theorem operations_eq_nil (hempty : (block.render start).text = ['\n']) :
    (block.render start).operations = [] := by
  apply List.eq_nil_iff_forall_not_mem.mpr
  intro operation hmem
  have hlies := (block.render_fillsLines start).liesIn hmem
  have hstop := (block.render_fillsLines start).stop_lt hmem
  have hstart := hlies.start_le
  have hlt := hlies.start_lt_stop
  rw [hempty, units_lineEnd] at hstop
  omega

/-- A list or a quote has no operation if it is one empty paragraph. Otherwise it gets its
operation, which reaches every paragraph of the block except an empty one at its end. So
all paragraphs are reached exactly when the block does not end with an empty one. -/
theorem paragraphOperation_reaches (hstyle : block.paragraphStyle? = some style)
    (hne : (block.render start).text ≠ []) :
    let output := block.render start
    (output.text = ['\n'] → output.operations = []) ∧
    (output.text ≠ ['\n'] → ∃ operation ∈ output.operations, operation.style = style ∧
      ∀ before line after, IsParagraphIn output.text before line after →
        (operation.Reaches start before line ↔ line ≠ [] ∨ after ≠ [])) ∧
    ((∃ operation ∈ output.operations, operation.style = style ∧
      ∀ before line after, IsParagraphIn output.text before line after →
        operation.Reaches start before line) ↔ ¬ EndsEmpty output.text) := by
  intro output
  obtain ⟨body, htext⟩ := (block.render_fillsLines start).eq_nil_or_endsLine.resolve_left hne
  have hreaches : output.text ≠ ['\n'] → ∃ operation ∈ output.operations,
      operation.style = style ∧ ∀ before line after,
        IsParagraphIn output.text before line after →
          (operation.Reaches start before line ↔ line ≠ [] ∨ after ≠ []) := by
    intro hlonger
    have hbody : body ≠ [] := by
      rintro rfl
      exact hlonger htext
    refine ⟨_, paragraphOperation_mem hstyle hbody htext, rfl, ?_⟩
    intro before line after hparagraph
    rw [htext] at hparagraph
    exact reaches_iff hparagraph
  refine ⟨operations_eq_nil, hreaches, ?_, ?_⟩
  · rintro ⟨operation, hmem, -, hall⟩ hempty
    obtain ⟨before, hlast⟩ := endsEmpty_iff.mp hempty
    exact not_reaches_last hmem hlast (hall before [] [] hlast)
  · intro hfull
    obtain ⟨operation, hmem, hoperation, hiff⟩ := hreaches fun h => hfull (.inl h)
    refine ⟨operation, hmem, hoperation, ?_⟩
    intro before line after hparagraph
    refine (hiff before line after hparagraph).mpr ?_
    -- A paragraph that is not reached would be empty and the last one.
    cases line with
    | cons c rest => exact .inl (List.cons_ne_nil c rest)
    | nil =>
        refine .inr ?_
        rintro rfl
        exact hfull (endsEmpty_iff.mpr ⟨before, hparagraph⟩)

end Block

/-- A list of one item with a text and one item without. -/
def openEndedList : Block where
  kind := .list
  items := [[{ kind := .paragraph, content := textLine ['a'] }], []]

theorem openEndedList_text : (openEndedList.render 1).text = "a\n\n".toList := by
  decide +kernel

/-- The range of the list, one letter long, reaches the first item and not the second. -/
theorem openEndedList_reaches :
    openEndedList.paragraphStyle? = some (listStyle false) ∧
      (openEndedList.render 1).text ≠ [] ∧
      ∃ operation ∈ (openEndedList.render 1).operations, operation.style = listStyle false ∧
        operation.Reaches 1 [] ['a'] ∧ ¬ operation.Reaches 1 ['a', '\n'] [] := by
  have hne : (openEndedList.render 1).text ≠ [] := by
    rw [openEndedList_text]
    decide
  have hlonger : (openEndedList.render 1).text ≠ ['\n'] := by
    rw [openEndedList_text]
    decide
  have hlist : openEndedList.paragraphStyle? = some (listStyle false) := rfl
  obtain ⟨operation, hmem, hstyle, hiff⟩ :=
    (Block.paragraphOperation_reaches hlist hne).2.1 hlonger
  rw [openEndedList_text] at hiff
  have hfirst := hiff [] ['a'] ['\n'] ⟨rfl, .nil, by decide⟩
  have hlast := hiff ['a', '\n'] [] [] ⟨rfl, isLines_append_lineEnd ['a'], List.not_mem_nil⟩
  exact ⟨hlist, hne, operation, hmem, hstyle, hfirst.mpr (by simp), fun h => by simp [hlast] at h⟩

/-- The bullets of this list do not reach its second item. -/
theorem openEndedList_unreached_item :
    ¬ ∃ operation ∈ (openEndedList.render 1).operations, operation.style = listStyle false ∧
      ∀ before line after, IsParagraphIn (openEndedList.render 1).text before line after →
        operation.Reaches 1 before line := by
  rintro ⟨operation, hmem, -, hall⟩
  have hlast : IsParagraphIn (openEndedList.render 1).text ['a', '\n'] [] [] := by
    rw [openEndedList_text]
    exact ⟨rfl, isLines_append_lineEnd ['a'], List.not_mem_nil⟩
  exact Block.not_reaches_last hmem hlast (hall _ _ _ hlast)

end DocPress
