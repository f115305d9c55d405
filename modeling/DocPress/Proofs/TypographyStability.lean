import Mathlib.Data.List.Forall2
import DocPress.Proofs.Text.Replacing
import DocPress.Typography

/-!
# When the typographic filter has nothing left to do

A filtered text is a fixed point of the filter unless one pair of hyphens is left
between two characters that are not blank. Quotes and dots are never left over: a
step that replaces them leaves none behind, and no later step brings one back. Pairs
of hyphens can be left over because a character beside a mark is taken up with it
and cannot stand beside the next mark: `a--b--c` becomes `a–b--c`.
-/

namespace DocPress.Typography

/-- Whether somewhere in a text a pattern stands right between a character of one
kind and a character of another. -/
def StandsBetween (before after : Char → Bool) (pattern text : Text) : Prop :=
  ∃ left c d right, text = left ++ c :: (pattern ++ d :: right) ∧ before c ∧ after d

theorem StandsBetween.cons {before after : Char → Bool} {pattern text : Text}
    (hstands : StandsBetween before after pattern text) (first : Char) :
    StandsBetween before after pattern (first :: text) := by
  obtain ⟨left, c, d, right, rfl, hbefore, hafter⟩ := hstands
  exact ⟨first :: left, c, d, right, rfl, hbefore, hafter⟩

/-- A pattern stands between two characters either at the head of a text or in what
follows its first character. -/
theorem StandsBetween.head_or_tail {before after : Char → Bool} {pattern rest : Text}
    {first : Char} (hstands : StandsBetween before after pattern (first :: rest)) :
    (∃ d right, rest = pattern ++ d :: right ∧ before first ∧ after d) ∨
      StandsBetween before after pattern rest := by
  obtain ⟨left, c, d, right, heq, hbefore, hafter⟩ := hstands
  cases left with
  | nil =>
      obtain ⟨rfl, rfl⟩ := List.cons.inj heq
      exact .inl ⟨d, right, rfl, hbefore, hafter⟩
  | cons _ left =>
      obtain ⟨rfl, rfl⟩ := List.cons.inj heq
      exact .inr ⟨left, c, d, right, rfl, hbefore, hafter⟩

/-! ## Replacing between two characters -/

section ReplaceBetween

variable {before after : Char → Bool} {pattern : Text} {mark : Char}

/-- Where the pattern stands nowhere between such characters, a step changes nothing. -/
theorem replaceBetween_eq_self {text : Text} (hnot : ¬ StandsBetween before after pattern text) :
    replaceBetween before after pattern mark text = text := by
  fun_induction replaceBetween before after pattern mark text with
  | case1 => rfl
  | case2 c rest hbefore d tail hfound hafter ih =>
      refine absurd ⟨[], c, d, tail, ?_, hbefore, hafter⟩ hnot
      rw [dropLeading?_eq_some_iff.mp hfound]
      rfl
  | case3 c rest hbefore d tail hfound hafter ih => rw [ih fun h => hnot (h.cons c)]
  | case4 c rest hbefore hfound ih => rw [ih fun h => hnot (h.cons c)]
  | case5 c rest hbefore ih => rw [ih fun h => hnot (h.cons c)]

/-- No step makes a text longer. -/
theorem length_replaceBetween_le {text : Text} (hpattern : pattern ≠ []) :
    (replaceBetween before after pattern mark text).length ≤ text.length := by
  have hpos := List.length_pos_of_ne_nil hpattern
  fun_induction replaceBetween before after pattern mark text with
  | case1 => exact Nat.le_refl 0
  | case2 c rest hbefore d tail hfound hafter ih =>
      rw [dropLeading?_eq_some_iff.mp hfound]
      simp only [List.length_cons, List.length_append]
      omega
  | case3 c rest hbefore d tail hfound hafter ih => simpa using ih
  | case4 c rest hbefore hfound ih => simpa using ih
  | case5 c rest hbefore ih => simpa using ih

/-- A step whose pattern is longer than one character shortens a text in which it
finds the pattern. -/
theorem length_replaceBetween_lt {text : Text} (hpattern : 2 ≤ pattern.length)
    (hstands : StandsBetween before after pattern text) :
    (replaceBetween before after pattern mark text).length < text.length := by
  have hne : pattern ≠ [] := by
    rintro rfl
    simp at hpattern
  fun_induction replaceBetween before after pattern mark text with
  | case1 =>
      obtain ⟨left, c, d, right, heq, _⟩ := hstands
      simp at heq
  -- Here the pattern is replaced by a mark, which is shorter.
  | case2 c rest hbefore d tail hfound hafter ih =>
      have hle : (replaceBetween before after pattern mark tail).length ≤ tail.length :=
        length_replaceBetween_le hne
      rw [dropLeading?_eq_some_iff.mp hfound]
      simp only [List.length_cons, List.length_append]
      omega
  -- The pattern begins here, but the character after it is not of the kind asked for.
  | case3 c rest hbefore d tail hfound hafter ih =>
      rcases hstands.head_or_tail with ⟨e, right, heq, _, he⟩ | htail
      · rw [heq, dropLeading?_eq_some_iff.mpr rfl] at hfound
        obtain ⟨rfl, rfl⟩ := List.cons.inj (Option.some.inj hfound)
        exact absurd he hafter
      · simpa using ih htail
  | case4 c rest hbefore hfound ih =>
      rcases hstands.head_or_tail with ⟨d, right, heq, _, _⟩ | htail
      · exact absurd (dropLeading?_eq_some_iff.mpr heq) (hfound d right)
      · simpa using ih htail
  | case5 c rest hbefore ih =>
      rcases hstands.head_or_tail with ⟨d, right, heq, hfirst, _⟩ | htail
      · exact absurd hfirst hbefore
      · simpa using ih htail

theorem mem_replaceBetween {text : Text} {c : Char}
    (hmem : c ∈ replaceBetween before after pattern mark text) : c ∈ text ∨ c = mark := by
  fun_induction replaceBetween before after pattern mark text with
  | case1 => exact .inl hmem
  | case2 first rest hbefore d tail hfound hafter ih =>
      rw [dropLeading?_eq_some_iff.mp hfound]
      simp only [List.mem_cons, List.mem_append] at hmem ⊢
      grind
  | case3 first rest hbefore d tail hfound hafter ih => grind
  | case4 first rest hbefore hfound ih => grind
  | case5 first rest hbefore ih => grind

/-- A step either leaves a text as it is or shortens it. -/
theorem replaceBetween_shrinks (text : Text) (hpattern : 2 ≤ pattern.length) :
    replaceBetween before after pattern mark text = text ∨
      (replaceBetween before after pattern mark text).length < text.length := by
  by_cases hstands : StandsBetween before after pattern text
  · exact .inr (length_replaceBetween_lt hpattern hstands)
  · exact .inl (replaceBetween_eq_self hstands)

end ReplaceBetween

/-! ## Dashes -/

/-- Whether a pair of hyphens stands between two characters that are not blank. -/
def HasInnerPair (line : Text) : Prop :=
  StandsBetween isInk isInk "--".toList line

/-- No digit is blank, as a comparison of the two tables of characters shows. -/
theorem isInk_of_isDigit {c : Char} (hdigit : isDigit c) : isInk c := by
  have hdisjoint : ∀ base ∈ decimalZeros, ∀ range ∈ blankRanges,
      range.2 < base ∨ base + 10 ≤ range.1 := by decide
  obtain ⟨value, hvalue⟩ := Option.isSome_iff_exists.mp hdigit
  obtain ⟨base, hbase, hfound⟩ := List.exists_of_findSome?_eq_some hvalue
  simp only [Option.ite_none_right_eq_some, Bool.and_eq_true, decide_eq_true_eq] at hfound
  simp only [isInk, isBlank, CodeRanges.contains, Bool.not_eq_true', List.any_eq_false,
    Bool.and_eq_true, decide_eq_true_eq]
  intro range hrange
  have := hdisjoint base hbase range hrange
  omega

/-- Each step for dashes takes in a pair of hyphens between characters that are not
blank: one of three hyphens serves as such a character. -/
theorem hasInnerPair_of_triple_after {after : Char → Bool} {line : Text}
    (hstands : StandsBetween isInk after "---".toList line) : HasInnerPair line := by
  obtain ⟨left, c, d, right, rfl, hc, _⟩ := hstands
  exact ⟨left, c, '-', d :: right, rfl, hc, by decide⟩

theorem hasInnerPair_of_triple_before {before : Char → Bool} {line : Text}
    (hstands : StandsBetween before isInk "---".toList line) : HasInnerPair line := by
  obtain ⟨left, c, d, right, rfl, _, hd⟩ := hstands
  exact ⟨left ++ [c], '-', d, right, by simp, by decide, hd⟩

/-- A pair between digits stands between characters that are not blank. -/
theorem hasInnerPair_of_digits {line : Text}
    (hstands : StandsBetween isDigit isDigit "--".toList line) : HasInnerPair line := by
  obtain ⟨left, c, d, right, rfl, hc, hd⟩ := hstands
  exact ⟨left, c, d, right, rfl, isInk_of_isDigit hc, isInk_of_isDigit hd⟩

/-- Without such a pair there is no dash to set. -/
theorem dashes_eq_self {line : Text} (hnot : ¬ HasInnerPair line) : dashes line = line := by
  have hboth : replaceBetween isInk isInk "---".toList emDash line = line :=
    replaceBetween_eq_self fun h => hnot (hasInnerPair_of_triple_after h)
  have hleft : replaceBetween isInk isBlank "---".toList emDash line = line :=
    replaceBetween_eq_self fun h => hnot (hasInnerPair_of_triple_after h)
  have hright : replaceBetween isBlank isInk "---".toList emDash line = line :=
    replaceBetween_eq_self fun h => hnot (hasInnerPair_of_triple_before h)
  have hdigits : replaceBetween isDigit isDigit "--".toList enDash line = line :=
    replaceBetween_eq_self fun h => hnot (hasInnerPair_of_digits h)
  have hpair : replaceBetween isInk isInk "--".toList enDash line = line :=
    replaceBetween_eq_self hnot
  simp only [dashes, hboth, hleft, hright, hdigits, hpair]

/-- With such a pair some dash is set, and the line gets shorter. -/
theorem length_dashes_lt {line : Text} (hpair : HasInnerPair line) :
    (dashes line).length < line.length := by
  have hthree : 2 ≤ "---".toList.length := by decide
  have htwo : 2 ≤ "--".toList.length := by decide
  -- A step that changes the line shortens it. If no step before the last one does, the last
  -- one still finds the pair.
  let first := replaceBetween isInk isInk "---".toList emDash line
  let second := replaceBetween isInk isBlank "---".toList emDash first
  let third := replaceBetween isBlank isInk "---".toList emDash second
  let fourth := replaceBetween isDigit isDigit "--".toList enDash third
  let fifth := replaceBetween isInk isInk "--".toList enDash fourth
  have hfirst : first = line ∨ first.length < line.length := replaceBetween_shrinks _ hthree
  have hsecond : second = first ∨ second.length < first.length := replaceBetween_shrinks _ hthree
  have hthird : third = second ∨ third.length < second.length := replaceBetween_shrinks _ hthree
  have hfourth : fourth = third ∨ fourth.length < third.length := replaceBetween_shrinks _ htwo
  have hfifth : fifth = fourth ∨ fifth.length < fourth.length := replaceBetween_shrinks _ htwo
  have hlast : fourth = line → fifth.length < fourth.length := by
    intro heq
    exact length_replaceBetween_lt htwo (heq ▸ hpair)
  change fifth.length < line.length
  grind

theorem mem_dashes {line : Text} {c : Char} (hmem : c ∈ dashes line) :
    c ∈ line ∨ c = emDash ∨ c = enDash := by
  have hfifth := mem_replaceBetween hmem
  grind [mem_replaceBetween]

/-! ## Dots -/

/-- Whether three dots stand in a row somewhere. -/
def HasTripleDot (line : Text) : Prop :=
  ['.', '.', '.'] <:+: line

theorem ellipses_eq_replaceAll (line : Text) :
    ellipses line = replaceAll ['.', '.', '.'] [ellipsis] line := rfl

theorem length_ellipses_le (line : Text) : (ellipses line).length ≤ line.length :=
  length_replaceAll_le (by decide)

theorem ellipses_eq_self {line : Text} (hnot : ¬ HasTripleDot line) : ellipses line = line :=
  replaceAll_eq_self hnot

theorem mem_ellipses {line : Text} {c : Char} (hmem : c ∈ ellipses line) :
    c ∈ line ∨ c = ellipsis :=
  (mem_replaceAll hmem).imp_right List.mem_singleton.mp

/-- A dot at the head of the result was at the head of the line already. -/
theorem exists_of_ellipses_eq_cons {line rest : Text} (heq : ellipses line = '.' :: rest) :
    ∃ tail, line = '.' :: tail ∧ ellipses tail = rest := by
  rw [ellipses_eq_replaceAll] at heq
  rw [replaceAll.eq_def] at heq
  split at heq
  next => exact absurd heq (by simp)
  next c tail =>
    split at heq
    next found hfound =>
      rw [if_neg (by decide)] at heq
      have hhead := (List.cons.inj heq).1
      exact absurd hhead (by decide)
    next hnone =>
      obtain ⟨rfl, htail⟩ := List.cons.inj heq
      exact ⟨tail, rfl, htail⟩

/-- No three dots are left in a row: setting ellipses brings none together. -/
theorem not_hasTripleDot_ellipses (line : Text) : ¬ HasTripleDot (ellipses line) := by
  intro htriple
  rw [ellipses_eq_replaceAll] at htriple
  fun_induction replaceAll ['.', '.', '.'] [ellipsis] line with
  | case1 => exact absurd (List.infix_nil.mp htriple) (by decide)
  | case2 c rest tail hfound hzero ih => exact absurd hzero (by decide)
  | case3 c rest tail hfound hpattern ih =>
      rcases List.infix_cons_iff.mp htriple with hprefix | hinfix
      · exact absurd (List.cons_prefix_cons.mp hprefix).1 (by decide)
      · exact ih hinfix
  | case4 c rest hfound ih =>
      rcases List.infix_cons_iff.mp htriple with hprefix | hinfix
      · -- The first three characters were not replaced, so they were three dots before.
        obtain ⟨hc, hprefix⟩ := List.cons_prefix_cons.mp hprefix
        obtain ⟨more, hmore⟩ := hprefix
        obtain ⟨second, rfl, hsecond⟩ := exists_of_ellipses_eq_cons hmore.symm
        obtain ⟨third, rfl, _⟩ := exists_of_ellipses_eq_cons hsecond
        subst hc
        exact absurd hfound (by simp [dropLeading?])
      · exact ih hinfix

/-! ## Quotes -/

/-- The marks that stand for straight quotes. -/
def curlyQuotes : List Char :=
  [leftDoubleQuote, rightDoubleQuote, leftSingleQuote, rightSingleQuote]

/-- Whether one line is another one with some characters changed to curly quotes. -/
def Curled (line curled : Text) : Prop :=
  List.Forall₂ (fun c d => d = c ∨ d ∈ curlyQuotes) line curled

namespace Curled

theorem refl (line : Text) : Curled line line :=
  List.forall₂_same.mpr fun _ _ => .inl rfl

theorem trans {first second third : Text} (hfirst : Curled first second)
    (hsecond : Curled second third) : Curled first third := by
  induction hfirst generalizing third with
  | nil => exact hsecond
  | cons hcd _ ih =>
      cases hsecond with
      | cons hde hrest =>
          refine .cons ?_ (ih hrest)
          rcases hde with rfl | hde
          · exact hcd
          · exact .inr hde

/-- A character that is no curly quote was there before. -/
theorem mem {line curled : Text} (hcurled : Curled line curled) {c : Char}
    (hmem : c ∈ curled) (hc : c ∉ curlyQuotes) : c ∈ line := by
  induction hcurled with
  | nil => exact hmem
  | cons hab _ ih =>
      rcases List.mem_cons.mp hmem with rfl | hmem
      · rw [hab.resolve_right hc]
        exact List.mem_cons_self
      · exact List.mem_cons_of_mem _ (ih hmem)

/-- A dot was a dot before, since no curly quote is one. -/
theorem exists_of_dot {line rest : Text} (hcurled : Curled line ('.' :: rest)) :
    ∃ tail, line = '.' :: tail ∧ Curled tail rest := by
  cases hcurled with
  | cons hdot hrest =>
      obtain rfl := hdot.resolve_right (by decide)
      exact ⟨_, rfl, hrest⟩

/-- So were three dots in a row. -/
theorem hasTripleDot {line curled : Text} (hcurled : Curled line curled)
    (htriple : HasTripleDot curled) : HasTripleDot line := by
  induction hcurled with
  | nil => exact htriple
  | @cons c d tail curledTail hcd htail ih =>
      rcases List.infix_cons_iff.mp htriple with ⟨more, hmore⟩ | hinfix
      · have hdots : Curled (c :: tail) (['.', '.', '.'] ++ more) := by
          rw [hmore]
          exact .cons hcd htail
        obtain ⟨second, hline, hsecond⟩ := exists_of_dot hdots
        obtain ⟨third, rfl, hthird⟩ := exists_of_dot hsecond
        obtain ⟨others, rfl, _⟩ := exists_of_dot hthird
        rw [hline]
        exact (List.prefix_append _ others).isInfix
      · exact (ih hinfix).trans (List.suffix_cons c tail).isInfix

end Curled

theorem curled_replaceChar (c : Char) {mark : Char} (hmark : mark ∈ curlyQuotes) (line : Text) :
    Curled line (replaceChar c mark line) := by
  induction line with
  | nil => exact .nil
  | cons d rest ih =>
      refine .cons ?_ ih
      change (if d = c then mark else d) = d ∨ (if d = c then mark else d) ∈ curlyQuotes
      split
      · exact .inr hmark
      · exact .inl rfl

theorem curled_openInside (quote : Char) {mark : Char} (hmark : mark ∈ curlyQuotes) (line : Text) :
    Curled line (openInside quote mark line) := by
  fun_induction openInside quote mark line with
  | case1 c q d tail hopens ih => exact .cons (.inl rfl) (.cons (.inr hmark) (.cons (.inl rfl) ih))
  | case2 c q d tail hnot ih => exact .cons (.inl rfl) ih
  | case3 line hshort => exact .refl line

theorem curled_openQuotes (quote : Char) {mark : Char} (hmark : mark ∈ curlyQuotes) (line : Text) :
    Curled line (openQuotes quote mark line) := by
  unfold openQuotes
  split
  next q d tail =>
    split
    · exact .cons (.inr hmark) (.cons (.inl rfl) (curled_openInside quote hmark tail))
    · exact curled_openInside quote hmark (q :: d :: tail)
  next => exact .refl line

/-- Setting apostrophes only curls some quotes. -/
theorem curled_replaceBetween {before after : Char → Bool} (quote : Char) {mark : Char}
    (hmark : mark ∈ curlyQuotes) (line : Text) :
    Curled line (replaceBetween before after [quote] mark line) := by
  fun_induction replaceBetween before after [quote] mark line with
  | case1 => exact .nil
  | case2 c rest hbefore d tail hfound hafter ih =>
      rw [dropLeading?_eq_some_iff.mp hfound]
      exact .cons (.inl rfl) (.cons (.inr hmark) (.cons (.inl rfl) ih))
  | case3 c rest hbefore d tail hfound hafter ih => exact .cons (.inl rfl) ih
  | case4 c rest hbefore hfound ih => exact .cons (.inl rfl) ih
  | case5 c rest hbefore ih => exact .cons (.inl rfl) ih

theorem curled_doubleQuotes (line : Text) : Curled line (doubleQuotes line) :=
  (curled_openQuotes '"' (by decide) line).trans (curled_replaceChar '"' (by decide) _)

theorem curled_singleQuotes (line : Text) : Curled line (singleQuotes line) :=
  ((curled_replaceBetween '\'' (by decide) line).trans
    (curled_openQuotes '\'' (by decide) _)).trans (curled_replaceChar '\'' (by decide) _)

theorem notMem_replaceChar {c mark : Char} (hne : mark ≠ c) (line : Text) :
    c ∉ replaceChar c mark line := by
  intro hmem
  obtain ⟨d, _, heq⟩ := List.mem_map.mp hmem
  split at heq
  next => exact hne heq
  next hd => exact hd heq

theorem replaceChar_eq_self {c mark : Char} {line : Text} (hnot : c ∉ line) :
    replaceChar c mark line = line := by
  have hid : ∀ d ∈ line, (if d = c then mark else d) = d := by
    intro d hmem
    apply if_neg
    rintro rfl
    exact hnot hmem
  rw [replaceChar, List.map_congr_left hid, List.map_id']

theorem openInside_eq_self {quote mark : Char} {line : Text} (hnot : quote ∉ line) :
    openInside quote mark line = line := by
  fun_induction openInside quote mark line with
  | case1 c q d tail hopens ih =>
      simp only [Bool.and_eq_true, beq_iff_eq] at hopens
      exact absurd (by simp [hopens.1.2]) hnot
  | case2 c q d tail hnotOpens ih => rw [ih fun h => hnot (List.mem_cons_of_mem c h)]
  | case3 => rfl

theorem openQuotes_eq_self {quote mark : Char} {line : Text} (hnot : quote ∉ line) :
    openQuotes quote mark line = line := by
  unfold openQuotes
  split
  next q d tail =>
    have hq : q ≠ quote := fun h => hnot (h ▸ List.mem_cons_self)
    rw [if_neg (by simp [hq]), openInside_eq_self hnot]
  next => rfl

theorem doubleQuotes_eq_self {line : Text} (hnot : '"' ∉ line) : doubleQuotes line = line := by
  rw [doubleQuotes, openQuotes_eq_self hnot, replaceChar_eq_self hnot]

/-- A line without straight single quotes is left alone. -/
theorem singleQuotes_eq_self {line : Text} (hnot : '\'' ∉ line) : singleQuotes line = line := by
  have hbetween : replaceBetween isWord isWord ['\''] rightSingleQuote line = line := by
    apply replaceBetween_eq_self
    rintro ⟨left, c, d, right, rfl, _⟩
    exact hnot (by simp)
  simp only [singleQuotes, hbetween, openQuotes_eq_self hnot, replaceChar_eq_self hnot]

/-! ## Lines -/

/-- Whether a line has no straight quotes and no three dots in a row. -/
structure IsSet (line : Text) : Prop where
  doubleQuote : '"' ∉ line
  singleQuote : '\'' ∉ line
  tripleDot : ¬ HasTripleDot line

/-- What the steps make of a line that is not left as it is. -/
def setLine (line : Text) : Text :=
  singleQuotes (doubleQuotes (ellipses (dashes line)))

/-- After all the steps no straight quote is left, and no three dots in a row. -/
theorem isSet_setLine (line : Text) : IsSet (setLine line) where
  doubleQuote hmem :=
    notMem_replaceChar (by decide) _ ((curled_singleQuotes _).mem hmem (by decide))
  singleQuote hmem := notMem_replaceChar (by decide) _ hmem
  tripleDot htriple :=
    not_hasTripleDot_ellipses _
      ((curled_doubleQuotes _).hasTripleDot ((curled_singleQuotes _).hasTripleDot htriple))

/-- No step brings in a line end. -/
theorem lineEnd_notMem_setLine {line : Text} (hnot : '\n' ∉ line) : '\n' ∉ setLine line := by
  intro hmem
  have hquotes := (curled_doubleQuotes _).mem ((curled_singleQuotes _).mem hmem (by decide))
    (by decide)
  rcases mem_ellipses hquotes with hdashes | hellipsis
  · rcases mem_dashes hdashes with hline | hdash | hdash
    · exact hnot hline
    · exact absurd hdash (by decide)
    · exact absurd hdash (by decide)
  · exact absurd hellipsis (by decide)

theorem lineEnd_notMem_filterLine {line : Text} (hnot : '\n' ∉ line) : '\n' ∉ filterLine line := by
  unfold filterLine
  split
  · exact hnot
  · exact lineEnd_notMem_setLine hnot

/-- After the dashes no step makes a line longer. -/
theorem length_setLine_le_dashes (line : Text) : (setLine line).length ≤ (dashes line).length := by
  have hsingle := (curled_singleQuotes (doubleQuotes (ellipses (dashes line)))).length_eq
  have hdouble := (curled_doubleQuotes (ellipses (dashes line))).length_eq
  have hellipses := length_ellipses_le (dashes line)
  unfold setLine
  omega

/-- The steps leave a line without straight quotes and triple dots as it is unless it
has an inner pair of hyphens. -/
theorem setLine_eq_self_iff {line : Text} (hset : IsSet line) :
    setLine line = line ↔ ¬ HasInnerPair line := by
  constructor
  · intro heq hpair
    -- The dashes shorten the line, and no later step makes up for that.
    have hlt := length_dashes_lt hpair
    have hle := length_setLine_le_dashes line
    rw [heq] at hle
    omega
  · intro hnot
    rw [setLine, dashes_eq_self hnot, ellipses_eq_self hset.tripleDot,
      doubleQuotes_eq_self hset.doubleQuote, singleQuotes_eq_self hset.singleQuote]

/-- A second pass changes a line only if it finds an inner pair of hyphens there. -/
theorem filterLine_filterLine_eq_iff (line : Text) :
    filterLine (filterLine line) = filterLine line ↔
      isExempt (filterLine line) ∨ ¬ HasInnerPair (filterLine line) := by
  by_cases hexempt : isExempt (filterLine line)
  · simp only [hexempt, true_or, iff_true]
    exact if_pos hexempt
  · -- Had the line been left as it is, it would be exempt still.
    have hline : ¬ isExempt line := by
      intro h
      rw [filterLine, if_pos h] at hexempt
      exact hexempt h
    have hset : IsSet (filterLine line) := by
      rw [filterLine, if_neg hline]
      exact isSet_setLine line
    rw [or_iff_right hexempt, ← setLine_eq_self_iff hset]
    conv_lhs => rw [filterLine, if_neg hexempt]
    rfl

/-! ## Texts -/

/-- The lines of a filtered text are the filtered lines of the text. -/
theorem textLines_filter (text : Text) :
    textLines (filter text) = (textLines text).map filterLine := by
  apply textLines_joinLines
  · simpa using textLines_ne_nil text
  · intro line hmem
    obtain ⟨source, hsource, rfl⟩ := List.mem_map.mp hmem
    exact lineEnd_notMem_filterLine (lineEnd_notMem_of_mem_textLines hsource)

/-- The filter does nothing to a filtered text exactly when no line of the filtered
text, lines that the filter leaves as they are apart, has a pair of hyphens between
two characters that are not blank. -/
theorem filter_filter_eq_iff (text : Text) :
    filter (filter text) = filter text ↔
      ∀ line ∈ textLines (filter text), isExempt line ∨ ¬ HasInnerPair line := by
  have hlines : filter (filter text) = filter text ↔
      (textLines (filter text)).map filterLine = textLines (filter text) := by
    rw [← textLines_filter (filter text)]
    constructor
    · intro heq
      rw [heq]
    · intro heq
      rw [← joinLines_textLines (filter (filter text)), heq, joinLines_textLines]
  rw [hlines, textLines_filter, List.map_map, List.map_inj_left]
  simp only [Function.comp_apply, filterLine_filterLine_eq_iff, List.forall_mem_map]

/-- The middle letter is taken up with the first dash, so the second pair waits for
another pass. -/
theorem filter_filter_ne_of_shared_neighbour :
    filter "a--b--c".toList = "a–b--c".toList ∧
      filter (filter "a--b--c".toList) ≠ filter "a--b--c".toList := by
  decide +kernel

end DocPress.Typography
