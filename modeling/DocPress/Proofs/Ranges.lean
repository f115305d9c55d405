import DocPress.Compilation.Inline

/-!
# Where style operations lie

An operation lies in a text when it covers a run of whole characters of it, and
at least one. Its two ends are then places between characters, never inside the
pair of code units that one character takes. Rendering inline content gives
operations that lie in the rendered text, whatever the nesting.
-/

namespace DocPress

@[simp]
theorem units_nil : units [] = 0 := rfl

@[simp]
theorem units_cons (c : Char) (rest : Text) : units (c :: rest) = charUnits c + units rest := rfl

theorem charUnits_pos (c : Char) : 0 < charUnits c := by
  unfold charUnits
  split <;> decide

theorem units_pos {text : Text} (hne : text ≠ []) : 0 < units text := by
  cases text with
  | nil => exact absurd rfl hne
  | cons c rest =>
      have := charUnits_pos c
      simp only [units_cons]
      omega

/-- Whether a position is a place between two characters of a text that begins
at `start`, its two ends included. -/
def IsBoundary (start : Int) (text : Text) (position : Int) : Prop :=
  ∃ before after, text = before ++ after ∧ position = start + units before

namespace StyleOperation

/-- Whether an operation covers a position. -/
def covers (operation : StyleOperation) (position : Int) : Bool :=
  operation.start ≤ position && position < operation.stop

/-- Whether an operation covers a nonempty run of the characters of a text that
begins at `start`. -/
def LiesIn (operation : StyleOperation) (start : Int) (text : Text) : Prop :=
  ∃ before covered after, text = before ++ covered ++ after ∧ covered ≠ [] ∧
    operation.start = start + units before ∧ operation.stop = operation.start + units covered

namespace LiesIn

variable {operation : StyleOperation} {start : Int} {text : Text}

theorem start_le (hlies : operation.LiesIn start text) : start ≤ operation.start := by
  obtain ⟨before, covered, after, rfl, _, hstart, hstop⟩ := hlies
  omega

theorem start_lt_stop (hlies : operation.LiesIn start text) :
    operation.start < operation.stop := by
  obtain ⟨before, covered, after, rfl, hne, hstart, hstop⟩ := hlies
  have := units_pos hne
  omega

theorem stop_le (hlies : operation.LiesIn start text) :
    operation.stop ≤ start + units text := by
  obtain ⟨before, covered, after, rfl, _, hstart, hstop⟩ := hlies
  simp only [units_append]
  omega

theorem isBoundary_start (hlies : operation.LiesIn start text) :
    IsBoundary start text operation.start := by
  obtain ⟨before, covered, after, rfl, _, hstart, _⟩ := hlies
  exact ⟨before, covered ++ after, by rw [List.append_assoc], hstart⟩

theorem isBoundary_stop (hlies : operation.LiesIn start text) :
    IsBoundary start text operation.stop := by
  obtain ⟨before, covered, after, rfl, _, hstart, hstop⟩ := hlies
  refine ⟨before ++ covered, after, rfl, ?_⟩
  rw [units_append]
  omega

/-- Text after the characters covered changes nothing. -/
theorem append (hlies : operation.LiesIn start text) (more : Text) :
    operation.LiesIn start (text ++ more) := by
  obtain ⟨before, covered, after, rfl, hne, hstart, hstop⟩ := hlies
  exact ⟨before, covered, after ++ more, by simp only [List.append_assoc], hne, hstart, hstop⟩

/-- Text before the characters covered moves them on. -/
theorem shift {first : Text} (hlies : operation.LiesIn (start + units first) text) :
    operation.LiesIn start (first ++ text) := by
  obtain ⟨before, covered, after, rfl, hne, hstart, hstop⟩ := hlies
  refine ⟨first ++ before, covered, after, by simp only [List.append_assoc], hne, ?_, hstop⟩
  rw [units_append]
  omega

theorem not_covers_of_lt (hlies : operation.LiesIn start text) {position : Int}
    (hbefore : position < start) : operation.covers position = false := by
  have := hlies.start_le
  simp only [covers, Bool.and_eq_false_iff, decide_eq_false_iff_not]
  omega

theorem not_covers_of_le (hlies : operation.LiesIn start text) {position : Int}
    (hafter : start + units text ≤ position) : operation.covers position = false := by
  have := hlies.stop_le
  simp only [covers, Bool.and_eq_false_iff, decide_eq_false_iff_not]
  omega

end LiesIn

/-- No operation is made for an empty range. -/
theorem mem_covering {operation : StyleOperation} {start stop : Int} {style : Style} :
    operation ∈ covering start stop style ↔ start < stop ∧ operation = ⟨start, stop, style⟩ := by
  unfold covering
  split
  next hlt => simp [hlt]
  next hnot => simp [hnot]

/-- An operation over all of a text lies in it; over no text there is none. -/
theorem liesIn_of_mem_covering {operation : StyleOperation} {start : Int} {text : Text}
    {style : Style} (hmem : operation ∈ covering start (start + units text) style) :
    operation.LiesIn start text := by
  obtain ⟨hlt, rfl⟩ := mem_covering.mp hmem
  refine ⟨[], text, [], by simp, ?_, by simp, rfl⟩
  rintro rfl
  simp at hlt

end StyleOperation

/-! ## Inline content -/

namespace Styled

/-- Whether every operation lies in the text, which begins at `start`. -/
def OperationsLieIn (styled : Styled) (start : Int) : Prop :=
  ∀ operation ∈ styled.operations, operation.LiesIn start styled.text

variable {start : Int}

theorem plain_operationsLieIn (text : Text) : (plain text).OperationsLieIn start := by
  intro operation hmem
  exact absurd hmem List.not_mem_nil

/-- The second text has been rendered for the place where the first one ends. -/
theorem OperationsLieIn.append {first second : Styled} (hfirst : first.OperationsLieIn start)
    (hsecond : second.OperationsLieIn (start + units first.text)) :
    (first.append second).OperationsLieIn start := by
  intro operation hmem
  rcases List.mem_append.mp hmem with hmem | hmem
  · exact (hfirst operation hmem).append second.text
  · exact (hsecond operation hmem).shift

theorem OperationsLieIn.wrap {styled : Styled} (hstyled : styled.OperationsLieIn start)
    (style : Style) : (styled.wrap start style).OperationsLieIn start := by
  intro operation hmem
  rcases List.mem_append.mp hmem with hmem | hmem
  · exact hstyled operation hmem
  · exact StyleOperation.liesIn_of_mem_covering hmem

end Styled

mutual

/-- The operations of a node lie in the text of that node. -/
theorem Inline.render_operationsLieIn :
    ∀ (node : Inline) (start : Int), (node.render start).OperationsLieIn start
  | ⟨kind, text, children, href, checked⟩, start => by
      have hchildren := renderInline_operationsLieIn children start
      cases kind with
      | strong => exact hchildren.wrap boldStyle
      | emphasis => exact hchildren.wrap italicStyle
      | strikethrough => exact hchildren.wrap strikethroughStyle
      | link =>
          match href with
          | none | some [] => exact Styled.plain_operationsLieIn _
          | some (c :: destination) => exact (Styled.plain_operationsLieIn _).wrap _
      | codeSpan => exact (Styled.plain_operationsLieIn _).wrap codeSpanStyle
      | other name =>
          unfold Inline.render
          dsimp only
          split
          · exact Styled.plain_operationsLieIn _
          · exact hchildren
      | text | softBreak | hardBreak | checkbox => exact Styled.plain_operationsLieIn _

theorem renderInline_operationsLieIn :
    ∀ (nodes : List Inline) (start : Int), (renderInline start nodes).OperationsLieIn start
  | [], _ => Styled.plain_operationsLieIn []
  | node :: rest, start =>
      (Inline.render_operationsLieIn node start).append (renderInline_operationsLieIn rest _)

end

end DocPress
