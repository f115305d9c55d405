import DocPress.Proofs.Lists
import DocPress.Text.Basic

/-!
# Lines of a text

Splitting a text at its line ends and joining the lines again are inverse to each
other, since a line holds no line end. Both are the splitting and the joining of
lists at a separator, whose laws are used here. A pattern without a line end that
stands in joined lines stands within one of them.
-/

namespace DocPress

/-- The splitting at a separator is that of the library. -/
theorem splitAt_eq_splitOn (separator : Char) (text : Text) :
    splitAt separator text = text.splitOn separator := by
  induction text with
  | nil => rfl
  | cons c rest ih =>
      rw [splitAt, ih, List.splitOn_cons_eq_if_modifyHead]
      by_cases hc : c = separator
      · simp [hc]
      · rw [if_neg hc, if_neg (by simpa using hc)]
        cases hpieces : rest.splitOn separator with
        | nil => exact absurd hpieces (List.splitOn_ne_nil _ _)
        | cons piece pieces => rfl

theorem joinWith_cons_cons (separator first second : Text) (rest : List Text) :
    joinWith separator (first :: second :: rest) =
      first ++ separator ++ joinWith separator (second :: rest) := rfl

theorem joinWith_eq_intercalate (separator : Text) (pieces : List Text) :
    joinWith separator pieces = separator.intercalate pieces := by
  induction pieces with
  | nil => rfl
  | cons piece rest ih =>
      cases rest with
      | nil => simp [joinWith]
      | cons next others => rw [joinWith, ih, List.intercalate_cons_cons]; exact fun h => nomatch h

/-- Pieces that do not hold the separator are got back from the text they are joined to. -/
theorem splitAt_joinWith {separator : Char} {pieces : List Text} (hne : pieces ≠ [])
    (hpieces : ∀ piece ∈ pieces, separator ∉ piece) :
    splitAt separator (joinWith [separator] pieces) = pieces := by
  rw [joinWith_eq_intercalate, splitAt_eq_splitOn]
  exact List.splitOn_intercalate _ hpieces hne

theorem textLines_ne_nil (text : Text) : textLines text ≠ [] := by
  rw [textLines, splitAt_eq_splitOn]
  exact List.splitOn_ne_nil _ _

/-- A line holds no line end. -/
theorem lineEnd_notMem_of_mem_textLines {text line : Text} (hmem : line ∈ textLines text) :
    '\n' ∉ line := by
  induction text generalizing line with
  | nil =>
      obtain rfl : line = [] := by simpa [textLines, splitAt] using hmem
      exact List.not_mem_nil
  | cons c rest ih =>
      rw [textLines, splitAt] at hmem
      split at hmem
      next =>
        rcases List.mem_cons.mp hmem with rfl | hmem
        · exact List.not_mem_nil
        · exact ih hmem
      -- A character other than the line end joins the first line of the rest.
      next hc =>
        split at hmem
        next hnone => exact absurd hnone (textLines_ne_nil rest)
        next piece pieces hpieces =>
          have hpiece : '\n' ∉ piece := ih (by rw [textLines, hpieces]; exact List.mem_cons_self)
          rcases List.mem_cons.mp hmem with rfl | hmem
          · simp [hpiece, Ne.symm hc]
          · exact ih (by rw [textLines, hpieces]; exact List.mem_cons_of_mem _ hmem)

/-- A text is its lines joined again. -/
@[simp]
theorem joinLines_textLines (text : Text) : joinLines (textLines text) = text := by
  rw [joinLines, textLines, joinWith_eq_intercalate, splitAt_eq_splitOn, List.intercalate_splitOn]

theorem textLines_joinLines {lines : List Text} (hne : lines ≠ [])
    (hlines : ∀ line ∈ lines, '\n' ∉ line) : textLines (joinLines lines) = lines :=
  splitAt_joinWith hne hlines

theorem textLines_of_notMem {line : Text} (hline : '\n' ∉ line) : textLines line = [line] := by
  rw [textLines, splitAt_eq_splitOn]
  exact List.splitOn_eq_singleton hline

/-- A line end ends a line. -/
theorem textLines_append_lineEnd (first second : Text) :
    textLines (first ++ '\n' :: second) = textLines first ++ textLines second := by
  simp only [textLines, splitAt_eq_splitOn]
  exact List.splitOn_append_cons_self _ _

/-- What follows a leading pattern is what the library calls a text without that prefix. -/
theorem dropLeading?_eq_dropPrefix? (pattern text : Text) :
    dropLeading? pattern text = text.dropPrefix? pattern := by
  induction pattern generalizing text with
  | nil => cases text <;> rfl
  | cons p pattern ih =>
      cases text with
      | nil => rfl
      | cons c rest =>
          rw [dropLeading?, List.dropPrefix?, ih]
          by_cases hp : p = c
          · rw [if_pos hp, if_pos (beq_iff_eq.mpr hp.symm)]
          · rw [if_neg hp, if_neg (fun heq => hp (beq_iff_eq.mp heq).symm)]

theorem dropLeading?_eq_some_iff {pattern text rest : Text} :
    dropLeading? pattern text = some rest ↔ text = pattern ++ rest := by
  simp [dropLeading?_eq_dropPrefix?, List.dropPrefix?_eq_some_iff]

/-! ## Patterns within a line -/

/-- A pattern without a line end stands within one of the lines that are joined. -/
theorem exists_infix_of_infix_joinLines {pattern : Text} {lines : List Text} (hne : pattern ≠ [])
    (hpattern : '\n' ∉ pattern) (hoccurs : pattern <:+: joinLines lines) :
    ∃ line ∈ lines, pattern <:+: line := by
  induction lines with
  | nil => exact absurd (List.infix_nil.mp hoccurs) hne
  | cons line rest ih =>
      cases rest with
      | nil => exact ⟨line, List.mem_cons_self, hoccurs⟩
      | cons next others =>
          rw [joinLines, joinWith_cons_cons, List.append_assoc] at hoccurs
          rcases infix_of_infix_append_cons hpattern hoccurs with hline | hrest
          · exact ⟨line, List.mem_cons_self, hline⟩
          · obtain ⟨other, hmem, hother⟩ := ih hrest
            exact ⟨other, List.mem_cons_of_mem line hmem, hother⟩

/-- No character but the line end comes in by joining lines. -/
theorem notMem_joinLines {c : Char} {lines : List Text} (hc : c ≠ '\n')
    (hlines : ∀ line ∈ lines, c ∉ line) : c ∉ joinLines lines := by
  intro hmem
  -- A single character is a pattern of length one.
  have hoccurs : [c] <:+: joinLines lines := (List.singleton_infix_iff _ _).mpr hmem
  obtain ⟨line, hline, hthere⟩ :=
    exists_infix_of_infix_joinLines (List.cons_ne_nil c []) (by simp [Ne.symm hc]) hoccurs
  exact hlines line hline ((List.singleton_infix_iff _ _).mp hthere)

end DocPress
