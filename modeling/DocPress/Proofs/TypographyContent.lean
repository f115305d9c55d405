import DocPress.Proofs.TypographyStability

/-!
# What the typographic filter keeps

Every mark that the filter sets stands for characters that were there before: a dash
for its hyphens, an ellipsis for three dots, a curly quote for a straight one. Written
out again, a filtered text is the source written out. The filter therefore neither
loses nor repeats nor moves any other character, and line ends are such characters.

Nothing is said here of which marks are set.
-/

namespace DocPress.Typography

/-- The plain characters that a typographic mark stands for; any other character
stands for itself. -/
def plainForm : Char → Text
  | '“' | '”' => ['"']
  | '‘' | '’' => ['\'']
  | '…' => ['.', '.', '.']
  | '—' => ['-', '-', '-']
  | '–' => ['-', '-']
  | c => [c]

/-- A text with its typographic marks written out in plain characters. -/
def straighten (text : Text) : Text :=
  text.flatMap plainForm

/-- The characters that the filter takes up or sets. -/
def settingMarks : List Char :=
  ['"', '\'', '.', '-', leftDoubleQuote, rightDoubleQuote, leftSingleQuote, rightSingleQuote,
    ellipsis, emDash, enDash]

/-- Whether the filter neither takes up nor sets a character. -/
def isContent (c : Char) : Bool :=
  c ∉ settingMarks

@[simp]
theorem straighten_nil : straighten [] = [] := rfl

@[simp]
theorem straighten_cons (c : Char) (rest : Text) :
    straighten (c :: rest) = plainForm c ++ straighten rest := rfl

@[simp]
theorem straighten_append (first second : Text) :
    straighten (first ++ second) = straighten first ++ straighten second :=
  List.flatMap_append

/-! ## The steps -/

section Steps

variable {mark : Char}

/-- A mark that stands for its pattern can be set in place of it. -/
theorem straighten_replaceBetween {before after : Char → Bool} {pattern : Text}
    (hmark : plainForm mark = straighten pattern) (text : Text) :
    straighten (replaceBetween before after pattern mark text) = straighten text := by
  fun_induction replaceBetween before after pattern mark text with
  | case1 => rfl
  | case2 c rest hbefore d tail hfound hafter ih =>
      rw [dropLeading?_eq_some_iff.mp hfound]
      simp only [straighten_cons, straighten_append, ih, hmark]
  | case3 c rest hbefore d tail hfound hafter ih => rw [straighten_cons, ih, straighten_cons]
  | case4 c rest hbefore hfound ih => rw [straighten_cons, ih, straighten_cons]
  | case5 c rest hbefore ih => rw [straighten_cons, ih, straighten_cons]

/-- A replacement that stands for its pattern can be set in place of it. -/
theorem straighten_replaceAll {pattern replacement : Text}
    (hreplacement : straighten replacement = straighten pattern) (text : Text) :
    straighten (replaceAll pattern replacement text) = straighten text := by
  fun_induction replaceAll pattern replacement text with
  | case1 => rfl
  | case2 c rest tail hfound hzero ih => rw [straighten_cons, ih, straighten_cons]
  | case3 c rest tail hfound hpattern ih =>
      rw [dropLeading?_eq_some_iff.mp hfound]
      simp only [straighten_append, ih, hreplacement]
  | case4 c rest hfound ih => rw [straighten_cons, ih, straighten_cons]

variable {quote : Char}

/-- An opening quote stands for the straight quote that it is set for. -/
theorem straighten_openInside (hmark : plainForm mark = plainForm quote) (text : Text) :
    straighten (openInside quote mark text) = straighten text := by
  fun_induction openInside quote mark text with
  | case1 c q d tail hopens ih =>
      simp only [Bool.and_eq_true, beq_iff_eq] at hopens
      simp only [straighten_cons, ih, hmark, hopens.1.2]
  | case2 c q d tail hnot ih =>
      rw [straighten_cons, ih]
      rfl
  | case3 text hshort => rfl

/-- So does one at the start of a line. -/
theorem straighten_openQuotes (hmark : plainForm mark = plainForm quote) (text : Text) :
    straighten (openQuotes quote mark text) = straighten text := by
  unfold openQuotes
  split
  next q d tail =>
    split
    next hopens =>
      simp only [Bool.and_eq_true, beq_iff_eq] at hopens
      simp only [straighten_cons, straighten_openInside hmark, hmark, hopens.1]
    next => exact straighten_openInside hmark (q :: d :: tail)
  next => rfl

theorem straighten_replaceChar (hmark : plainForm mark = plainForm quote) (text : Text) :
    straighten (replaceChar quote mark text) = straighten text := by
  have hchar : ∀ c, plainForm (if c = quote then mark else c) = plainForm c := by
    intro c
    split
    next hc => rw [hmark, hc]
    next => rfl
  simp only [straighten, replaceChar, List.flatMap_map, hchar]

end Steps

/-! ## Lines and texts -/

theorem straighten_dashes (line : Text) : straighten (dashes line) = straighten line := by
  have hem : plainForm emDash = straighten "---".toList := by decide
  have hen : plainForm enDash = straighten "--".toList := by decide
  simp only [dashes, straighten_replaceBetween hem, straighten_replaceBetween hen]

theorem straighten_ellipses (line : Text) : straighten (ellipses line) = straighten line :=
  straighten_replaceAll (by decide) line

theorem straighten_doubleQuotes (line : Text) :
    straighten (doubleQuotes line) = straighten line := by
  have hright : plainForm rightDoubleQuote = plainForm '"' := by decide
  have hleft : plainForm leftDoubleQuote = plainForm '"' := by decide
  simp only [doubleQuotes, straighten_replaceChar hright, straighten_openQuotes hleft]

theorem straighten_singleQuotes (line : Text) :
    straighten (singleQuotes line) = straighten line := by
  have hright : plainForm rightSingleQuote = plainForm '\'' := by decide
  have hleft : plainForm leftSingleQuote = plainForm '\'' := by decide
  have happostrophe : plainForm rightSingleQuote = straighten ['\''] := by decide
  simp only [singleQuotes, straighten_replaceChar hright, straighten_openQuotes hleft,
    straighten_replaceBetween happostrophe]

/-- A filtered line written out is the line written out. -/
theorem straighten_filterLine (line : Text) : straighten (filterLine line) = straighten line := by
  unfold filterLine
  split
  next => rfl
  next =>
    simp only [straighten_singleQuotes, straighten_doubleQuotes, straighten_ellipses,
      straighten_dashes]

theorem straighten_joinLines (lines : List Text) :
    straighten (joinLines lines) = joinLines (lines.map straighten) := by
  induction lines with
  | nil => rfl
  | cons line rest ih =>
      cases rest with
      | nil => rfl
      | cons next others =>
          rw [joinLines, joinWith_cons_cons, straighten_append, straighten_append]
          rw [joinLines] at ih
          rw [ih]
          rfl

/-- A mark and what it stands for are no content, and content stands for itself. -/
theorem filter_isContent_plainForm (c : Char) :
    (plainForm c).filter isContent = [c].filter isContent := by
  unfold plainForm
  split
  -- The last case is that of a character that is no mark.
  case h_8 => rfl
  all_goals decide

/-- Writing marks out changes none of the other characters. -/
theorem filter_isContent_straighten (text : Text) :
    (straighten text).filter isContent = text.filter isContent := by
  induction text with
  | nil => rfl
  | cons c rest ih =>
      rw [straighten_cons, List.filter_append, ih, filter_isContent_plainForm,
        ← List.filter_append, List.singleton_append]

/-- A filtered text with its marks written out is the source with its marks written
out. All characters other than quotes, dashes, hyphens and dots, line ends included,
are those of the source, in the same order. -/
theorem straighten_filter (text : Text) :
    straighten (filter text) = straighten text ∧
      (filter text).filter isContent = text.filter isContent := by
  have hstraight : straighten (filter text) = straighten text := by
    calc straighten (filter text)
        = joinLines ((textLines text).map (straighten ∘ filterLine)) := by
          rw [filter, straighten_joinLines, List.map_map]
      _ = joinLines ((textLines text).map straighten) := by
          simp only [Function.comp_def, straighten_filterLine]
      _ = straighten text := by rw [← straighten_joinLines, joinLines_textLines]
  refine ⟨hstraight, ?_⟩
  rw [← filter_isContent_straighten, hstraight, filter_isContent_straighten]

example : isContent '\n' := by decide

end DocPress.Typography
