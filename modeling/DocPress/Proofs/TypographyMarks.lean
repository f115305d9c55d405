import DocPress.Proofs.TypographyContent
import DocPress.Proofs.TypographyStructure

/-!
# What no filtered text holds

No straight quote stands in a filtered text, and nowhere in it three dots in a row. On a
line that the filter sets, the steps see to that. A line that the filter leaves as it is
has no such character to begin with, and since no line end is a dot, no three dots come
together where lines meet.

Nothing is said of hyphens: a pair of them can be left over.
-/

namespace DocPress.Typography

/-- A line that the filter leaves as it is has neither straight quotes nor dots. -/
theorem isSet_of_isExempt {line : Text} (hexempt : isExempt line = true) : IsSet line where
  doubleQuote hmem := absurd (mem_of_isExempt hexempt hmem) (by decide)
  singleQuote hmem := absurd (mem_of_isExempt hexempt hmem) (by decide)
  tripleDot htriple :=
    absurd (mem_of_isExempt hexempt (htriple.subset List.mem_cons_self)) (by decide)

/-- A filtered line has no straight quotes and no three dots, whether it was set or left. -/
theorem isSet_filterLine (line : Text) : IsSet (filterLine line) := by
  unfold filterLine
  split
  next hexempt => exact isSet_of_isExempt hexempt
  next => exact isSet_setLine line

/-- Joining lines brings in no quotes, and no dots come together at a line end. -/
theorem isSet_joinLines {lines : List Text} (hlines : ∀ line ∈ lines, IsSet line) :
    IsSet (joinLines lines) where
  doubleQuote := notMem_joinLines (by decide) fun line hmem => (hlines line hmem).doubleQuote
  singleQuote := notMem_joinLines (by decide) fun line hmem => (hlines line hmem).singleQuote
  tripleDot htriple := by
    obtain ⟨line, hline, hdots⟩ :=
      exists_infix_of_infix_joinLines (List.cons_ne_nil _ _) (by decide) htriple
    exact (hlines line hline).tripleDot hdots

/-- A filtered text has no straight quotes and no three dots in a row, whether a line of it was
set or left as it is. None of these is lost: a line with its marks written out is what it was. -/
theorem isSet_filter (text : Text) :
    IsSet (filter text) ∧ ∀ line ∈ textLines text,
      IsSet (filterLine line) ∧ straighten (filterLine line) = straighten line ∧
        (isExempt line = true → filterLine line = line ∧ IsSet line) := by
  constructor
  · apply isSet_joinLines
    intro line hmem
    obtain ⟨source, _, rfl⟩ := List.mem_map.mp hmem
    exact isSet_filterLine source
  · intro line _
    refine ⟨isSet_filterLine line, straighten_filterLine line, ?_⟩
    intro hexempt
    exact ⟨if_pos hexempt, isSet_of_isExempt hexempt⟩

end DocPress.Typography
