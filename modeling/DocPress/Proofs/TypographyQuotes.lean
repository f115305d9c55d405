import DocPress.Proofs.TypographyStructure

/-!
# The double quotes of a filtered line

The filter sets one curly double quote for every straight one, in its place. Whether it
opens or closes is a matter of the characters beside the straight quote: an opening quote
stands at the start of the line, after a blank or after an opening parenthesis, and before
a character that is not blank. The dashes and ellipses that are set before the quotes do
not change this.

There is one exception. A parenthesis right after an opening quote is taken up together
with that quote, so it does not make the next quote an opening one: `"("a` becomes
`“(”a`. A line is set by the characters beside its quotes alone exactly if this does not
happen in it.
-/

namespace DocPress.Typography

/-! ## The rule for a quote -/

/-- Whether a character is a double quote, straight or curly. -/
def isDoubleQuote (c : Char) : Bool :=
  c == '"' || c == leftDoubleQuote || c == rightDoubleQuote

/-- The double quotes of a text in order. -/
def quotesOf (text : Text) : Text :=
  text.filter isDoubleQuote

/-- The curly quote that opens or closes a quotation. -/
def quoteMark (opening : Bool) : Char :=
  if opening then leftDoubleQuote else rightDoubleQuote

/-- Whether a text begins with a character that is not blank. -/
def beginsWithInk (text : Text) : Bool :=
  text.head?.any isInk

/-- Whether a quote between two texts opens a quotation, judged by the characters beside
it. -/
def opensBetween (before after : Text) : Bool :=
  before.getLast?.all precedesOpening && beginsWithInk after

/-- Whether a quote can open a quotation after a text, which is read backwards. After a
parenthesis it can, unless a quote that itself could open one stands right before the
parenthesis. -/
def mayOpen : Text → Bool
  | [] => true
  | [c] => precedesOpening c
  | c :: d :: before => if c = '(' ∧ d = '"' then !mayOpen before else precedesOpening c

/-- Whether the filter opens a quotation with a quote between two texts. -/
def opens (before after : Text) : Bool :=
  mayOpen before.reverse && beginsWithInk after

/-- Whether the double quotes of the filtered line are those of the line, one for each,
set by a rule that is given the text before and the text after a quote. -/
def IsSetBy (rule : Text → Text → Bool) (line : Text) : Prop :=
  (quotesOf (filterLine line)).length = line.count '"' ∧
    ∀ before after, line = before ++ '"' :: after →
      (quotesOf (filterLine line))[before.count '"']? = some (quoteMark (rule before after))

/-- Whether somewhere in a line a quote that opens a quotation by the characters beside it
is followed by a parenthesis, another quote, and a character that is not blank. -/
def TakesParenthesis (line : Text) : Prop :=
  ∃ before after, line = before ++ '"' :: '(' :: '"' :: after ∧
    before.getLast?.all precedesOpening ∧ beginsWithInk after

theorem beginsWithInk_parenthesis (rest : Text) : beginsWithInk ('(' :: rest) = true := by
  rfl

section MayOpen

variable {before : Text} {c : Char}

/-- Apart from a parenthesis, the last character alone decides whether a quote can open. -/
theorem mayOpen_cons (hc : c ≠ '(') : mayOpen (c :: before) = precedesOpening c := by
  cases before with
  | nil => rfl
  | cons d rest => exact if_neg fun h => hc h.1

theorem mayOpen_parenthesis (hc : c ≠ '"') : mayOpen ('(' :: c :: before) = true :=
  if_neg fun h => hc h.2

/-- Of two quotes with a parenthesis between them only one can open. -/
theorem mayOpen_taken : mayOpen ('(' :: '"' :: before) = !mayOpen before := rfl

/-- After a quote none can open. -/
theorem mayOpen_quote : mayOpen ('"' :: before) = false :=
  mayOpen_cons (by decide)

/-- A quote that can open does so by the character before it. -/
theorem precedesOpening_of_mayOpen (hopen : mayOpen before = true) :
    before.head?.all precedesOpening = true := by
  cases before with
  | nil => rfl
  | cons c rest =>
      by_cases hc : c = '('
      · rw [hc]
        rfl
      · rw [mayOpen_cons hc] at hopen
        exact hopen

end MayOpen

/-! ## The curly quotes of a line -/

/-- The curly quotes for the straight ones of a text. What stands before the text is read
backwards. -/
def marksFor (before : Text) : Text → Text
  | [] => []
  | c :: rest =>
      if c = '"' then
        quoteMark (mayOpen before && beginsWithInk rest) :: marksFor (c :: before) rest
      else marksFor (c :: before) rest

section MarksFor

variable {before rest : Text} {c : Char}

theorem marksFor_quote : marksFor before ('"' :: rest) =
    quoteMark (mayOpen before && beginsWithInk rest) :: marksFor ('"' :: before) rest :=
  if_pos rfl

theorem marksFor_other (hc : c ≠ '"') :
    marksFor before (c :: rest) = marksFor (c :: before) rest :=
  if_neg hc

theorem marksFor_eq_nil {text : Text} (hnot : '"' ∉ text) : marksFor before text = [] := by
  induction text generalizing before with
  | nil => rfl
  | cons c rest ih =>
      rw [marksFor_other fun hc => hnot (hc ▸ List.mem_cons_self),
        ih fun hmem => hnot (List.mem_cons_of_mem c hmem)]

/-- One curly quote is set for each straight one. -/
theorem length_marksFor (text : Text) : (marksFor before text).length = text.count '"' := by
  induction text generalizing before with
  | nil => rfl
  | cons c rest ih =>
      by_cases hc : c = '"'
      · rw [hc, marksFor_quote, List.length_cons, ih, List.count_cons_self]
      · rw [marksFor_other hc, ih, List.count_cons_of_ne hc]

/-- As many curly quotes come before that of a quote as quotes stand before it. -/
theorem marksFor_getElem? (first after : Text) :
    (marksFor before (first ++ '"' :: after))[first.count '"']? =
      some (quoteMark (mayOpen (first.reverse ++ before) && beginsWithInk after)) := by
  induction first generalizing before with
  | nil => rw [List.nil_append, marksFor_quote]; rfl
  | cons c rest ih =>
      have hreverse : (c :: rest).reverse ++ before = rest.reverse ++ c :: before := by simp
      by_cases hc : c = '"'
      · rw [hreverse, hc, List.cons_append, marksFor_quote, List.count_cons_self,
          List.getElem?_cons_succ, ih]
      · rw [hreverse, List.cons_append, marksFor_other hc, List.count_cons_of_ne hc, ih]

/-- Two texts after which the same quotes can open, directly and after a parenthesis. -/
structure SameOpening (first second : Text) : Prop where
  direct : mayOpen first = mayOpen second
  parenthesis : mayOpen ('(' :: first) = mayOpen ('(' :: second)

theorem SameOpening.cons {first second : Text} (hsame : SameOpening first second) (c : Char) :
    SameOpening (c :: first) (c :: second) where
  direct := by
    by_cases hc : c = '('
    · rw [hc, hsame.parenthesis]
    · rw [mayOpen_cons hc, mayOpen_cons hc]
  parenthesis := by
    by_cases hc : c = '"'
    · rw [hc, mayOpen_taken, mayOpen_taken, hsame.direct]
    · rw [mayOpen_parenthesis hc, mayOpen_parenthesis hc]

/-- The curly quotes of a text depend on what stands before it only by which quotes can open. -/
theorem marksFor_congr {first second : Text} (hsame : SameOpening first second) (text : Text) :
    marksFor first text = marksFor second text := by
  induction text generalizing first second with
  | nil => rfl
  | cons c rest ih =>
      by_cases hc : c = '"'
      · rw [hc, marksFor_quote, marksFor_quote, hsame.direct, ih (hsame.cons '"')]
      · rw [marksFor_other hc, marksFor_other hc, ih (hsame.cons c)]

end MarksFor

/-! ## Dashes and ellipses -/

/-- Whether a character is neither blank nor a double quote nor an opening parenthesis. -/
def IsBystander (c : Char) : Prop :=
  isInk c ∧ c ≠ '"' ∧ c ≠ '('

instance (c : Char) : Decidable (IsBystander c) :=
  inferInstanceAs (Decidable (isInk c ∧ c ≠ '"' ∧ c ≠ '('))

/-- After one bystander as after another no quote can open, but after a parenthesis behind it one
can. -/
theorem IsBystander.sameOpening {c d : Char} (hc : IsBystander c) (hd : IsBystander d)
    (first second : Text) : SameOpening (c :: first) (d :: second) where
  direct := by
    have hclosed {e : Char} (he : IsBystander e) : precedesOpening e = false := by
      simp only [precedesOpening, Bool.or_eq_false_iff, beq_eq_false_iff_ne]
      exact ⟨by simpa [isInk] using he.1, he.2.2⟩
    rw [mayOpen_cons hc.2.2, mayOpen_cons hd.2.2, hclosed hc, hclosed hd]
  parenthesis := by rw [mayOpen_parenthesis hc.2.1, mayOpen_parenthesis hd.2.1]

/-- Whether two texts have the same curly quotes, whatever stands before them. -/
structure SameQuotes (first second : Text) : Prop where
  ink : beginsWithInk first = beginsWithInk second
  marks : ∀ before, marksFor before first = marksFor before second

namespace SameQuotes

theorem refl (text : Text) : SameQuotes text text :=
  ⟨rfl, fun _ => rfl⟩

theorem trans {first second third : Text} (hfirst : SameQuotes first second)
    (hsecond : SameQuotes second third) : SameQuotes first third :=
  ⟨hfirst.ink.trans hsecond.ink, fun before => (hfirst.marks before).trans (hsecond.marks before)⟩

theorem cons {first second : Text} (hsame : SameQuotes first second) (c : Char) :
    SameQuotes (c :: first) (c :: second) where
  ink := rfl
  marks before := by
    by_cases hc : c = '"'
    · rw [hc, marksFor_quote, marksFor_quote, hsame.ink, hsame.marks]
    · rw [marksFor_other hc, marksFor_other hc, hsame.marks]

theorem append {first second : Text} (hsame : SameQuotes first second) (front : Text) :
    SameQuotes (front ++ first) (front ++ second) := by
  induction front with
  | nil => exact hsame
  | cons c rest ih => exact ih.cons c

section Bystanders

variable {c d : Char} (hc : IsBystander c) (hd : IsBystander d)
include hc hd

/-- One bystander can stand for another. -/
theorem exchange (rest : Text) : SameQuotes (c :: rest) (d :: rest) where
  ink := hc.1.trans hd.1.symm
  marks before := by
    rw [marksFor_other hc.2.1, marksFor_other hd.2.1,
      marksFor_congr (hc.sameOpening hd before before)]

/-- One bystander can stand for two. -/
theorem double (rest : Text) : SameQuotes (c :: rest) (d :: c :: rest) where
  ink := hc.1.trans hd.1.symm
  marks before := by
    rw [marksFor_other hc.2.1, marksFor_other hd.2.1, marksFor_other hc.2.1,
      marksFor_congr (hc.sameOpening hc before (d :: before))]

end Bystanders

/-- One bystander stands for several in a row. -/
theorem mark_pattern {pattern : Text} {mark : Char} (hne : pattern ≠ [])
    (hpattern : ∀ c ∈ pattern, IsBystander c) (hmark : IsBystander mark) (rest : Text) :
    SameQuotes (mark :: rest) (pattern ++ rest) := by
  induction pattern with
  | nil => exact absurd rfl hne
  | cons c others ih =>
      obtain ⟨hc, hothers⟩ := List.forall_mem_cons.mp hpattern
      by_cases hnil : others = []
      · rw [hnil]
        exact exchange hmark hc rest
      · exact (double hmark hc rest).trans ((ih hnil hothers).cons c)

end SameQuotes

section Marks

variable {pattern : Text} {mark : Char} (hne : pattern ≠ [])
  (hpattern : ∀ c ∈ pattern, IsBystander c) (hmark : IsBystander mark)
include hne hpattern hmark

/-- Setting one bystander for several in a row changes no quote. -/
theorem replaceBetween_sameQuotes (before after : Char → Bool) (text : Text) :
    SameQuotes (replaceBetween before after pattern mark text) text := by
  fun_induction replaceBetween before after pattern mark text with
  | case1 => exact .refl []
  | case2 c rest hbefore d tail hfound hafter ih =>
      rw [dropLeading?_eq_some_iff.mp hfound]
      have htail := (ih.cons d).append pattern
      exact ((SameQuotes.mark_pattern hne hpattern hmark _).trans htail).cons c
  | case3 c rest hbefore d tail hfound hafter ih => exact ih.cons c
  | case4 c rest hbefore hfound ih => exact ih.cons c
  | case5 c rest hbefore ih => exact ih.cons c

theorem replaceAll_sameQuotes (text : Text) :
    SameQuotes (replaceAll pattern [mark] text) text := by
  fun_induction replaceAll pattern [mark] text with
  | case1 => exact .refl []
  | case2 c rest tail hfound hzero ih => exact ih.cons c
  | case3 c rest tail hfound hpositive ih =>
      rw [dropLeading?_eq_some_iff.mp hfound]
      exact (SameQuotes.mark_pattern hne hpattern hmark _).trans (ih.append pattern)
  | case4 c rest hfound ih => exact ih.cons c

end Marks

theorem dashes_sameQuotes (line : Text) : SameQuotes (dashes line) line := by
  have hhyphen : IsBystander '-' := by decide
  have hthree : ∀ c ∈ "---".toList, IsBystander c := by simp [hhyphen]
  have htwo : ∀ c ∈ "--".toList, IsBystander c := by simp [hhyphen]
  have hem (before after : Char → Bool) (line : Text) :
      SameQuotes (replaceBetween before after "---".toList emDash line) line :=
    replaceBetween_sameQuotes (by decide) hthree (by decide) before after line
  have hen (before after : Char → Bool) (line : Text) :
      SameQuotes (replaceBetween before after "--".toList enDash line) line :=
    replaceBetween_sameQuotes (by decide) htwo (by decide) before after line
  exact (hen _ _ _).trans <| (hen _ _ _).trans <| (hem _ _ _).trans <| (hem _ _ _).trans (hem _ _ _)

theorem ellipses_sameQuotes (line : Text) : SameQuotes (ellipses line) line := by
  have hdot : IsBystander '.' := by decide
  have hdots : ∀ c ∈ "...".toList, IsBystander c := by simp [hdot]
  exact replaceAll_sameQuotes (by decide) hdots (by decide) line

/-! ## Opening and closing quotes -/

/-- A text after the step that closes the quotes left over. -/
def closed (text : Text) : Text :=
  replaceChar '"' rightDoubleQuote text

/-- Whether a character is no curly double quote. -/
def IsUncurled (c : Char) : Prop :=
  c ≠ leftDoubleQuote ∧ c ≠ rightDoubleQuote

theorem IsUncurled.isDoubleQuote_eq {c : Char} (hcurly : IsUncurled c) :
    isDoubleQuote c = (c == '"') := by
  rw [isDoubleQuote, beq_false_of_ne hcurly.1, beq_false_of_ne hcurly.2, Bool.or_false,
    Bool.or_false]

/-- A straight quote that is left over closes. -/
theorem quotesOf_closed_quote (rest : Text) :
    quotesOf (closed ('"' :: rest)) = quoteMark false :: quotesOf (closed rest) := rfl

theorem quotesOf_closed_opening (rest : Text) :
    quotesOf (closed (leftDoubleQuote :: rest)) = quoteMark true :: quotesOf (closed rest) := rfl

theorem quotesOf_closed_other {c : Char} (hquote : c ≠ '"') (hcurly : IsUncurled c) (rest : Text) :
    quotesOf (closed (c :: rest)) = quotesOf (closed rest) := by
  have hclosed : closed (c :: rest) = c :: closed rest := by
    simp [closed, replaceChar, hquote]
  rw [hclosed, quotesOf, List.filter_cons_of_neg (by simp [hcurly.isDoubleQuote_eq, hquote])]
  rfl

/-- A character before which the quote cannot open is set as it is. -/
theorem quotesOf_closed_cons {before rest done : Text} {c : Char} (hcurly : IsUncurled c)
    (hshut : c = '"' → (mayOpen before && beginsWithInk rest) = false)
    (hrest : quotesOf (closed done) = marksFor (c :: before) rest) :
    quotesOf (closed (c :: done)) = marksFor before (c :: rest) := by
  by_cases hc : c = '"'
  · rw [hc, quotesOf_closed_quote, marksFor_quote, hshut hc, hrest, hc]
  · rw [quotesOf_closed_other hc hcurly, marksFor_other hc, hrest]

/-- A quote at the end of a line closes. -/
theorem quotesOf_closed_singleton {before : Text} {c : Char} (hcurly : IsUncurled c) :
    quotesOf (closed [c]) = marksFor before [c] :=
  quotesOf_closed_cons hcurly (fun _ => Bool.and_false _) rfl

/-- Whether the step for opening quotes can take up a text at its first character: no quote
opens right there, and a parenthesis there is not taken up already. -/
structure IsFree (before text : Text) : Prop where
  quote : ∀ rest, text = '"' :: rest → (mayOpen before && beginsWithInk rest) = false
  parenthesis : ∀ rest, text = '(' :: rest → mayOpen ('(' :: before) = true

namespace IsFree

variable {before rest : Text} {c : Char}

theorem mayOpen_cons_eq (hfree : IsFree before (c :: rest)) :
    mayOpen (c :: before) = precedesOpening c := by
  by_cases hc : c = '('
  · subst hc
    exact hfree.parenthesis rest rfl
  · exact mayOpen_cons hc

/-- A character before which nothing is opened is passed. -/
theorem tail (hfree : IsFree before (c :: rest))
    (hshut : ∀ after, rest = '"' :: after → (precedesOpening c && beginsWithInk after) = false) :
    IsFree (c :: before) rest where
  quote after hrest := by rw [hfree.mayOpen_cons_eq, hshut after hrest]
  parenthesis after hrest := by
    by_cases hc : c = '"'
    · subst hc hrest
      have hquote := hfree.quote _ rfl
      rw [beginsWithInk_parenthesis, Bool.and_true] at hquote
      rw [mayOpen_taken, hquote]
      rfl
    · exact mayOpen_parenthesis hc

/-- A character that is taken up with an opening quote is no place to open another one. -/
theorem after_opening (hopen : mayOpen before = true) (hink : isInk c = true) (rest : Text) :
    IsFree (c :: '"' :: before) rest where
  quote after _ := by
    have hshut : mayOpen (c :: '"' :: before) = false := by
      by_cases hc : c = '('
      · rw [hc, mayOpen_taken, hopen]
        rfl
      · have hblank : isBlank c = false := by simpa [isInk] using hink
        rw [mayOpen_cons hc, precedesOpening, hblank, Bool.false_or, beq_eq_false_iff_ne]
        exact hc
    rw [hshut, Bool.false_and]
  parenthesis after _ := by
    by_cases hc : c = '"'
    · rw [hc, mayOpen_taken, mayOpen_quote]
      rfl
    · exact mayOpen_parenthesis hc

end IsFree

/-- An opening quote is set together with the character after it. -/
theorem quotesOf_closed_opened {before rest done : Text} {d : Char} (hopen : mayOpen before = true)
    (hink : isInk d = true) (hcurly : IsUncurled d)
    (hrest : quotesOf (closed done) = marksFor (d :: '"' :: before) rest) :
    quotesOf (closed (leftDoubleQuote :: d :: done)) = marksFor before ('"' :: d :: rest) := by
  have hbegins : beginsWithInk (d :: rest) = true := hink
  have hnext : quotesOf (closed (d :: done)) = marksFor ('"' :: before) (d :: rest) :=
    quotesOf_closed_cons hcurly (fun _ => by rw [mayOpen_quote, Bool.false_and]) hrest
  rw [quotesOf_closed_opening, marksFor_quote, hopen, hbegins, hnext]
  rfl

/-- From a place where the step for opening quotes is free to take up characters, it opens the
quotes that can open there, and those left over close. -/
theorem quotesOf_openInside {before text : Text} (hcurly : ∀ c ∈ text, IsUncurled c)
    (hfree : IsFree before text) :
    quotesOf (closed (openInside '"' leftDoubleQuote text)) = marksFor before text := by
  fun_induction openInside '"' leftDoubleQuote text generalizing before with
  -- The quote after the first character is opened, and the character after it is taken up with
  -- it.
  | case1 c q d tail hopens ih =>
      simp only [Bool.and_eq_true, beq_iff_eq] at hopens
      obtain ⟨⟨hprecedes, rfl⟩, hink⟩ := hopens
      simp only [List.forall_mem_cons] at hcurly
      obtain ⟨hc, -, hd, htail⟩ := hcurly
      have hopen : mayOpen (c :: before) = true := hfree.mayOpen_cons_eq.trans hprecedes
      apply quotesOf_closed_cons hc
      · rintro rfl
        exact absurd hprecedes (by decide)
      · exact quotesOf_closed_opened hopen hink hd (ih htail (.after_opening hopen hink tail))
  -- Nothing is opened here, so the step moves on by one character.
  | case2 c q d tail hshut ih =>
      obtain ⟨hc, hrest⟩ := List.forall_mem_cons.mp hcurly
      refine quotesOf_closed_cons hc ?_ (ih hrest (hfree.tail ?_))
      · rintro rfl
        exact hfree.quote _ rfl
      · intro after hafter
        obtain ⟨rfl, rfl⟩ := List.cons.inj hafter
        simpa [beginsWithInk, isInk] using hshut
  -- Two characters or fewer: a quote among them has nothing after it to open before.
  | case3 text hshort =>
      cases text with
      | nil => rfl
      | cons c rest =>
          obtain ⟨hc, hrest⟩ := List.forall_mem_cons.mp hcurly
          cases rest with
          | nil => exact quotesOf_closed_singleton hc
          | cons q rest =>
              cases rest with
              | nil =>
                  refine quotesOf_closed_cons hc ?_ (quotesOf_closed_singleton (hrest q (by simp)))
                  rintro rfl
                  exact hfree.quote _ rfl
              | cons d tail => exact absurd rfl (hshort c q d tail)

/-- At the start of a line the step is free, so that the whole line follows the rule. -/
theorem quotesOf_doubleQuotes {line : Text} (hcurly : ∀ c ∈ line, IsUncurled c) :
    quotesOf (doubleQuotes line) = marksFor [] line := by
  change quotesOf (closed (openQuotes '"' leftDoubleQuote line)) = marksFor [] line
  unfold openQuotes
  split
  next q d tail =>
    split
    next hopens =>
      simp only [Bool.and_eq_true, beq_iff_eq] at hopens
      obtain ⟨rfl, hink⟩ := hopens
      simp only [List.forall_mem_cons] at hcurly
      obtain ⟨-, hd, htail⟩ := hcurly
      exact quotesOf_closed_opened rfl hink hd
        (quotesOf_openInside htail (.after_opening rfl hink tail))
    next hshut =>
      refine quotesOf_openInside hcurly ⟨?_, fun _ _ => rfl⟩
      intro rest hrest
      obtain ⟨rfl, rfl⟩ := List.cons.inj hrest
      simpa [mayOpen, beginsWithInk, isInk] using hshut
  next hshort =>
    cases line with
    | nil => rfl
    | cons c rest =>
        cases rest with
        | nil => exact quotesOf_closed_singleton (hcurly c List.mem_cons_self)
        | cons d tail => exact absurd rfl (hshort c d tail)

/-! ## Apostrophes and single quotes -/

section Kept

variable {kept : Char → Bool} {quote mark : Char} (hquote : kept quote = false)
  (hmark : kept mark = false)
include hquote hmark

theorem filter_replaceChar (text : Text) :
    (replaceChar quote mark text).filter kept = text.filter kept := by
  induction text with
  | nil => rfl
  | cons c rest ih =>
      change ((if c = quote then mark else c) :: replaceChar quote mark rest).filter kept = _
      by_cases hc : c = quote
      · rw [if_pos hc, hc, List.filter_cons_of_neg (by simp [hmark]),
          List.filter_cons_of_neg (by simp [hquote]), ih]
      · rw [if_neg hc, List.filter_cons, List.filter_cons, ih]

theorem filter_replaceBetween (before after : Char → Bool) (text : Text) :
    (replaceBetween before after [quote] mark text).filter kept = text.filter kept := by
  fun_induction replaceBetween before after [quote] mark text with
  | case1 => rfl
  | case2 c rest hbefore d tail hfound hafter ih =>
      rw [dropLeading?_eq_some_iff.mp hfound]
      simp [List.filter_cons, hquote, hmark, ih]
  | case3 c rest hbefore d tail hfound hafter ih => rw [List.filter_cons, List.filter_cons, ih]
  | case4 c rest hbefore hfound ih => rw [List.filter_cons, List.filter_cons, ih]
  | case5 c rest hbefore ih => rw [List.filter_cons, List.filter_cons, ih]

theorem filter_openInside (text : Text) :
    (openInside quote mark text).filter kept = text.filter kept := by
  fun_induction openInside quote mark text with
  | case1 c q d tail hopens ih =>
      simp only [Bool.and_eq_true, beq_iff_eq] at hopens
      simp [List.filter_cons, hopens.1.2, hquote, hmark, ih]
  | case2 c q d tail hshut ih => rw [List.filter_cons, ih, ← List.filter_cons]
  | case3 text hshort => rfl

theorem filter_openQuotes (text : Text) :
    (openQuotes quote mark text).filter kept = text.filter kept := by
  unfold openQuotes
  split
  next q d tail =>
    split
    next hopens =>
      simp only [Bool.and_eq_true, beq_iff_eq] at hopens
      simp [List.filter_cons, hopens.1, hquote, hmark, filter_openInside hquote hmark]
    next => exact filter_openInside hquote hmark _
  next => rfl

end Kept

/-- Setting single quotes changes no double quote. -/
theorem quotesOf_singleQuotes (line : Text) : quotesOf (singleQuotes line) = quotesOf line := by
  have hquote : isDoubleQuote '\'' = false := by decide
  have hright : isDoubleQuote rightSingleQuote = false := by decide
  have hleft : isDoubleQuote leftSingleQuote = false := by decide
  simp only [quotesOf, singleQuotes, filter_replaceChar hquote hright,
    filter_openQuotes hquote hleft, filter_replaceBetween hquote hright]

/-! ## Lines -/

/-- The double quotes of a filtered line are those that the rule of the filter gives. -/
theorem quotesOf_filterLine {line : Text} (hcurly : ∀ c ∈ line, IsUncurled c) :
    quotesOf (filterLine line) = marksFor [] line := by
  unfold filterLine
  split
  next hexempt =>
    -- Such a line has no quotes at all.
    have hquote : '"' ∉ line := by
      intro hmem
      rcases mem_of_isExempt hexempt hmem with hblank | hmark
      · exact absurd hblank (by decide)
      · exact absurd hmark (by decide)
    rw [marksFor_eq_nil hquote, quotesOf, List.filter_eq_nil_iff]
    intro c hmem
    have hc := hcurly c hmem
    have hne : c ≠ '"' := fun heq => hquote (heq ▸ hmem)
    simp [hc.isDoubleQuote_eq, hne]
  next =>
    have hsame : SameQuotes (ellipses (dashes line)) line :=
      (ellipses_sameQuotes _).trans (dashes_sameQuotes line)
    have hset : ∀ c ∈ ellipses (dashes line), IsUncurled c := by
      intro c hmem
      rcases mem_ellipses hmem with hmem | rfl
      · rcases mem_dashes hmem with hmem | rfl | rfl
        · exact hcurly c hmem
        · exact ⟨by decide, by decide⟩
        · exact ⟨by decide, by decide⟩
      · exact ⟨by decide, by decide⟩
    rw [quotesOf_singleQuotes, quotesOf_doubleQuotes hset, hsame.marks]

theorem getLast?_all_of_mayOpen {before : Text} (hopen : mayOpen before.reverse = true) :
    before.getLast?.all precedesOpening = true := by
  rw [← List.head?_reverse]
  exact precedesOpening_of_mayOpen hopen

/-- Where no parenthesis is taken up, the characters beside a quote decide. -/
theorem opens_eq_opensBetween {line before after : Text} (hnot : ¬ TakesParenthesis line)
    (hline : line = before ++ '"' :: after) : opens before after = opensBetween before after := by
  by_cases hink : beginsWithInk after = true
  · rw [opens, opensBetween, hink, Bool.and_true, Bool.and_true]
    obtain ⟨reversed, rfl⟩ : ∃ reversed : Text, before = reversed.reverse :=
      ⟨before.reverse, before.reverse_reverse.symm⟩
    rw [List.reverse_reverse, List.getLast?_reverse]
    match reversed with
    | [] | [c] => rfl
    | c :: d :: earlier =>
        by_cases htaken : c = '(' ∧ d = '"'
        · -- A quote that could open before the parenthesis would take it up.
          obtain ⟨rfl, rfl⟩ := htaken
          have hshut : mayOpen earlier = false := by
            rw [← Bool.not_eq_true]
            intro hopen
            refine hnot ⟨earlier.reverse, after, by simp [hline], ?_, hink⟩
            exact getLast?_all_of_mayOpen (by rwa [List.reverse_reverse])
          rw [mayOpen_taken, hshut]
          rfl
        · exact if_neg htaken
  · rw [Bool.not_eq_true] at hink
    rw [opens, opensBetween, hink, Bool.and_false, Bool.and_false]

theorem quoteMark_inj {first second : Bool} (heq : quoteMark first = quoteMark second) :
    first = second := by
  have hne : quoteMark true ≠ quoteMark false := by decide
  cases first with
  | false =>
      cases second with
      | false => rfl
      | true => exact absurd heq.symm hne
  | true =>
      cases second with
      | false => exact absurd heq hne
      | true => rfl

/-- The filter turns every straight double quote of a line into a curly one in its place. The
characters beside the quotes alone decide which one exactly if no parenthesis between two
quotes is taken up by the first of them. -/
theorem filterLine_isSetBy_neighbours_iff {line : Text} (hleft : leftDoubleQuote ∉ line)
    (hright : rightDoubleQuote ∉ line) :
    IsSetBy opens line ∧ (IsSetBy opensBetween line ↔ ¬ TakesParenthesis line) := by
  have hcurly : ∀ c ∈ line, IsUncurled c :=
    fun c hmem => ⟨fun heq => hleft (heq ▸ hmem), fun heq => hright (heq ▸ hmem)⟩
  have hset : IsSetBy opens line := by
    refine ⟨by rw [quotesOf_filterLine hcurly, length_marksFor], ?_⟩
    rintro before after rfl
    rw [quotesOf_filterLine hcurly, marksFor_getElem?, List.append_nil]
    rfl
  refine ⟨hset, ?_, ?_⟩
  · rintro hneighbours ⟨before, after, hline, hbefore, hafter⟩
    have hrule (before after : Text) (hline : line = before ++ '"' :: after) :
        opens before after = opensBetween before after :=
      quoteMark_inj (Option.some.inj ((hset.2 _ _ hline).symm.trans (hneighbours.2 _ _ hline)))
    -- By the characters beside them both quotes open. But if the first one can, the second
    -- one cannot.
    have hfirst : mayOpen before.reverse = true := by
      have hopens := hrule _ _ hline
      rwa [opens, opensBetween, hbefore, beginsWithInk_parenthesis, Bool.and_true,
        Bool.and_true] at hopens
    have hsecond : mayOpen (before ++ ['"', '(']).reverse = true := by
      have hopens := hrule (before ++ ['"', '(']) after (by simp [hline])
      rw [opens, opensBetween, hafter, Bool.and_true, Bool.and_true] at hopens
      rw [hopens]
      simp [precedesOpening]
    have htaken : mayOpen (before ++ ['"', '(']).reverse = !mayOpen before.reverse := by
      rw [List.reverse_append]
      exact mayOpen_taken
    rw [htaken, hfirst] at hsecond
    exact absurd hsecond (by decide)
  · intro hnot
    refine ⟨hset.1, fun before after hline => ?_⟩
    rw [← opens_eq_opensBetween hnot hline]
    exact hset.2 before after hline

/-- A line with quotes after a blank and after a parenthesis that is not taken up, and at its
end a quote after one that is. -/
def quotationsInParentheses : Text :=
  "\"a (\"b\") \"(\"c".toList

/-- The line is set by the rule of the filter and not by the characters beside its quotes. -/
theorem quotationsInParentheses_isSetBy :
    leftDoubleQuote ∉ quotationsInParentheses ∧ rightDoubleQuote ∉ quotationsInParentheses ∧
      IsSetBy opens quotationsInParentheses ∧ ¬ IsSetBy opensBetween quotationsInParentheses := by
  have hleft : leftDoubleQuote ∉ quotationsInParentheses := by decide
  have hright : rightDoubleQuote ∉ quotationsInParentheses := by decide
  have htaken : TakesParenthesis quotationsInParentheses :=
    ⟨"\"a (\"b\") ".toList, "c".toList, by decide, by decide, by decide⟩
  obtain ⟨hset, hneighbours⟩ := filterLine_isSetBy_neighbours_iff hleft hright
  exact ⟨hleft, hright, hset, fun h => hneighbours.mp h htaken⟩

/-- The second quote stands after a parenthesis and before a letter, but it closes. -/
theorem filterLine_not_isSetBy_neighbours :
    leftDoubleQuote ∉ "\"(\"a".toList ∧ rightDoubleQuote ∉ "\"(\"a".toList ∧
      filterLine "\"(\"a".toList = "“(”a".toList ∧ ¬ IsSetBy opensBetween "\"(\"a".toList := by
  refine ⟨by decide, by decide, by decide +kernel, fun hset => ?_⟩
  have hsecond := hset.2 "\"(".toList "a".toList (by decide)
  exact absurd hsecond (by decide +kernel)

end DocPress.Typography
