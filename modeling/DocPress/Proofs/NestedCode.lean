import DocPress.Proofs.BlockRanges
import DocPress.Proofs.Entities

/-!
# Code blocks inside lists and quotes

A code block of a document shows its text as it is. Inside a list item or a quote, at any
depth, it is one of the lines of the block around it, and the entities in such lines are
decoded like those in any other text, once. The code then differs from what was written
exactly when an entity occurs in it.

Blocks of an unknown kind are not among the blocks around the code here.
-/

namespace DocPress

/-! ## A text on lines of its own -/

/-- Whether a piece stands in a text on lines of its own: where a line begins, and with
a line end after it. -/
def HasLines (piece text : Text) : Prop :=
  ∃ before after, text = before ++ piece ++ '\n' :: after ∧
    (before = [] ∨ ∃ line, before = line ++ ['\n'])

namespace HasLines

variable {piece first second : Text}

theorem refl (piece : Text) : HasLines piece (piece ++ ['\n']) :=
  ⟨[], [], rfl, .inl rfl⟩

theorem append_left (hpiece : HasLines piece second)
    (hfirst : first = [] ∨ ∃ line, first = line ++ ['\n']) : HasLines piece (first ++ second) := by
  obtain ⟨before, after, rfl, hbefore⟩ := hpiece
  refine ⟨first ++ before, after, by simp, ?_⟩
  rcases hbefore with rfl | ⟨line, rfl⟩
  · rwa [List.append_nil]
  · exact .inr ⟨first ++ line, (List.append_assoc _ _ _).symm⟩

theorem append_right (hpiece : HasLines piece first) (second : Text) :
    HasLines piece (first ++ second) := by
  obtain ⟨before, after, rfl, hbefore⟩ := hpiece
  exact ⟨before, after ++ second, by simp, hbefore⟩

theorem isInfix (hpiece : HasLines piece first) : piece <:+: first := by
  obtain ⟨before, after, rfl, _⟩ := hpiece
  exact ⟨before, '\n' :: after, rfl⟩

end HasLines

/-- What one of the blocks has on lines of its own, the document has so too. -/
theorem hasLines_compile {piece : Text} {block : Block} {blocks : List Block}
    (hmem : block ∈ blocks) (hblock : ∀ start, HasLines piece (block.render start).text)
    (start : Int) : HasLines piece (compile blocks start).text := by
  induction blocks generalizing start with
  | nil => exact absurd hmem List.not_mem_nil
  | cons first rest ih =>
      have htext : (compile (first :: rest) start).text = (first.render start).text ++
          (compile rest (start + units (first.render start).text)).text := rfl
      rw [htext]
      rcases List.mem_cons.mp hmem with rfl | hmem
      · exact (hblock start).append_right _
      · exact (ih hmem _).append_left (first.render_fillsLines start).eq_nil_or_endsLine

/-- Each line of a plain paragraph is shown on a line of its own, its entities decoded. -/
theorem hasLines_plainParagraphs {line : Text} {lines : List Text} (hmem : line ∈ lines) :
    HasLines (decodeEntities line) (plainParagraphs lines) := by
  induction lines with
  | nil => exact absurd hmem List.not_mem_nil
  | cons first rest ih =>
      rw [plainParagraphs, List.flatMap_cons]
      rcases List.mem_cons.mp hmem with rfl | hmem
      · exact (HasLines.refl _).append_right _
      · exact (ih hmem).append_left (.inr ⟨_, rfl⟩)

theorem renderInline_textLine (start : Int) (text : Text) :
    (renderInline start (textLine text)).text = decodeEntities text := by
  simp [textLine, renderInline, Inline.render, Styled.append, Styled.plain]

/-- Each item line that is a single text is shown on a line of its own. -/
theorem hasLines_renderLines {text : Text} {lines : List (List Inline)}
    (hmem : textLine text ∈ lines) (start : Int) :
    HasLines (decodeEntities text) (renderLines start lines).text := by
  induction lines generalizing start with
  | nil => exact absurd hmem List.not_mem_nil
  | cons first rest ih =>
      rw [renderLines]
      rcases List.mem_cons.mp hmem with rfl | hmem
      · refine HasLines.append_right ?_ _
        rw [← renderInline_textLine start]
        exact HasLines.refl _
      · exact (ih hmem _).append_left (.inr ⟨_, rfl⟩)

/-! ## Lines of blocks -/

@[simp]
theorem plainText_textLine (text : Text) : plainText (textLine text) = text := by
  simp [textLine, plainText, Inline.plainText, Inline.leafText]

/-- A line that is plain text stays the same when the blocks around it are made plain. -/
theorem textLine_mem_blocksLines {text : Text} {block : Block} {blocks : List Block}
    (hmem : block ∈ blocks) (htext : textLine text ∈ block.lines) :
    textLine text ∈ blocksLines blocks := by
  induction blocks with
  | nil => exact absurd hmem List.not_mem_nil
  | cons first rest ih =>
      rw [blocksLines, List.mem_append]
      rcases List.mem_cons.mp hmem with rfl | hmem
      · exact .inl (List.mem_map.mpr ⟨_, htext, congrArg textLine (plainText_textLine text)⟩)
      · exact .inr (ih hmem)

/-- The lines of a block that does not continue a line are among those of its item. -/
theorem mem_itemLines {line : List Inline} {block : Block} {item : List Block}
    (hmem : block ∈ item) (hflow : block.kind.isFlowing = false) (hline : line ∈ block.lines)
    (begun : List Inline) (some : Bool) : line ∈ itemLines begun some item := by
  induction item generalizing begun some with
  | nil => exact absurd hmem List.not_mem_nil
  | cons first rest ih =>
      rw [itemLines]
      rcases List.mem_cons.mp hmem with rfl | hmem
      · -- The line begun so far comes before the lines of the block, whether it is empty or not.
        simp [hflow, hline]
      · split
        · exact ih hmem _ _
        · exact List.mem_append_right _ (ih hmem _ _)

theorem mem_itemsLines {line : List Inline} {item : List Block} {items : List (List Block)}
    (hmem : item ∈ items) (hline : line ∈ itemLines [] false item) : line ∈ itemsLines items := by
  induction items with
  | nil => exact absurd hmem List.not_mem_nil
  | cons first rest ih =>
      rw [itemsLines, List.mem_append]
      rcases List.mem_cons.mp hmem with rfl | hmem
      · exact .inl hline
      · exact .inr (ih hmem)

/-! ## Code blocks and what stands around them -/

/-- A code block with the given code. -/
def codeBlock (code : Text) : Block :=
  { kind := .code, text := code }

/-- The text of a code block without the line end that belongs to the block. -/
def literalCode (code : Text) : Text :=
  dropTrailingOnce '\n' code

/-- What stands around a block in the next larger block: the other blocks of a quote, or
the other blocks of a list item and the other items of its list. -/
inductive Enclosure
  | quote (before after : List Block)
  | item (ordered : Bool) (earlier later : List (List Block)) (before after : List Block)

namespace Enclosure

/-- A block with one container around it and other blocks beside it. -/
def enclose (inner : Block) : Enclosure → Block
  | quote before after => { kind := .quote, children := before ++ inner :: after }
  | item ordered earlier later before after =>
      { kind := .list, ordered, items := earlier ++ (before ++ inner :: after) :: later }

/-- Whether an enclosure has no other blocks. -/
def isBare : Enclosure → Bool
  | quote before after => before.isEmpty && after.isEmpty
  | item _ earlier later before after =>
      earlier.isEmpty && later.isEmpty && before.isEmpty && after.isEmpty

end Enclosure

/-- A block inside a number of enclosures, the outermost one first. -/
def nest (enclosures : List Enclosure) (inner : Block) : Block :=
  enclosures.foldr (fun enclosure block => enclosure.enclose block) inner

/-- How a code block inside a number of enclosures is shown. -/
def shownCode (enclosures : List Enclosure) (code : Text) : Text :=
  if enclosures.isEmpty then literalCode code else decodeEntities (literalCode code)

namespace Enclosure

variable (inner : Block)

theorem lines_quote (before after : List Block) :
    ((quote before after).enclose inner).lines = blocksLines (before ++ inner :: after) := by
  simp [enclose, Block.lines]

theorem lines_item (ordered : Bool) (earlier later : List (List Block))
    (before after : List Block) :
    ((item ordered earlier later before after).enclose inner).lines =
      itemsLines (earlier ++ (before ++ inner :: after) :: later) := by
  simp [enclose, Block.lines]

variable {inner} {text : Text}

/-- A line of its own in a block is one in the block around it too. -/
theorem textLine_mem_lines (hflow : inner.kind.isFlowing = false)
    (htext : textLine text ∈ inner.lines) (enclosure : Enclosure) :
    textLine text ∈ (enclosure.enclose inner).lines := by
  cases enclosure with
  | quote before after =>
      rw [lines_quote]
      exact textLine_mem_blocksLines (by simp) htext
  | item ordered earlier later before after =>
      rw [lines_item]
      have hitem : textLine text ∈ itemLines [] false (before ++ inner :: after) :=
        mem_itemLines (by simp) hflow htext [] false
      exact mem_itemsLines (by simp) hitem

/-- A block that is one line is the same line inside a bare enclosure. -/
theorem lines_eq_of_isBare (hflow : inner.kind.isFlowing = false)
    (htext : inner.lines = [textLine text]) {enclosure : Enclosure} (hbare : enclosure.isBare) :
    (enclosure.enclose inner).lines = [textLine text] := by
  cases enclosure with
  | quote before after =>
      simp only [isBare, Bool.and_eq_true, List.isEmpty_iff] at hbare
      obtain ⟨rfl, rfl⟩ := hbare
      simp [lines_quote, blocksLines, htext]
  | item ordered earlier later before after =>
      simp only [isBare, Bool.and_eq_true, List.isEmpty_iff] at hbare
      obtain ⟨⟨⟨rfl, rfl⟩, rfl⟩, rfl⟩ := hbare
      simp [lines_item, itemsLines, itemLines, lineOf, hflow, htext]

/-- A quote shows the plain lines of its blocks. -/
theorem text_render_quote (before after : List Block) (start : Int) :
    (((quote before after).enclose inner).render start).text =
      plainParagraphs (((quote before after).enclose inner).lines.map plainText) := by
  rw [lines_quote]
  rfl

theorem text_render_item (ordered : Bool) (earlier later : List (List Block))
    (before after : List Block) (start : Int) :
    (((item ordered earlier later before after).enclose inner).render start).text =
      (renderLines start ((item ordered earlier later before after).enclose inner).lines).text := by
  rw [lines_item]
  rfl

/-- A larger block shows every line of its own with the entities decoded. -/
theorem hasLines_render {enclosure : Enclosure}
    (htext : textLine text ∈ (enclosure.enclose inner).lines) (start : Int) :
    HasLines (decodeEntities text) ((enclosure.enclose inner).render start).text := by
  cases enclosure with
  | quote before after =>
      rw [text_render_quote]
      exact hasLines_plainParagraphs (List.mem_map.mpr ⟨_, htext, plainText_textLine text⟩)
  | item ordered earlier later before after =>
      rw [text_render_item]
      exact hasLines_renderLines htext start

/-- A container whose one line is a text shows this text decoded. -/
theorem text_render_of_lines {enclosure : Enclosure}
    (hlines : (enclosure.enclose inner).lines = [textLine text]) (start : Int) :
    ((enclosure.enclose inner).render start).text = decodeEntities text ++ ['\n'] := by
  cases enclosure with
  | quote before after =>
      rw [text_render_quote, hlines]
      simp [plainParagraphs]
  | item ordered earlier later before after =>
      rw [text_render_item, hlines]
      simp [renderLines, renderInline_textLine, Styled.append, Styled.plain]

end Enclosure

section Nesting

variable (code : Text) (enclosures : List Enclosure)

/-- Code never goes on in the line of an item, and no container does. -/
theorem nest_isFlowing : (nest enclosures (codeBlock code)).kind.isFlowing = false := by
  cases enclosures with
  | nil => rfl
  | cons enclosure rest => cases enclosure <;> rfl

theorem lines_codeBlock : (codeBlock code).lines = [textLine (literalCode code)] := by
  simp [codeBlock, Block.lines, literalCode]

/-- Code is a line of its own among the lines of every block around it. -/
theorem textLine_mem_lines_nest :
    textLine (literalCode code) ∈ (nest enclosures (codeBlock code)).lines := by
  induction enclosures with
  | nil => simp [nest, lines_codeBlock]
  | cons enclosure rest ih => exact enclosure.textLine_mem_lines (nest_isFlowing code rest) ih

/-- Containers that hold nothing else leave code its single line, however many they are. -/
theorem lines_nest_of_isBare (hbare : ∀ enclosure ∈ enclosures, enclosure.isBare) :
    (nest enclosures (codeBlock code)).lines = [textLine (literalCode code)] := by
  induction enclosures with
  | nil => exact lines_codeBlock code
  | cons enclosure rest ih =>
      have hrest := ih fun other hmem => hbare other (List.mem_cons_of_mem _ hmem)
      exact Enclosure.lines_eq_of_isBare (nest_isFlowing code rest) hrest
        (hbare enclosure List.mem_cons_self)

/-- However deeply it is nested, code is shown on lines of its own. -/
theorem hasLines_render_nest (start : Int) :
    HasLines (shownCode enclosures code)
      ((nest enclosures (codeBlock code)).render start).text := by
  cases enclosures with
  | nil => exact HasLines.refl (literalCode code)
  | cons enclosure rest =>
      exact Enclosure.hasLines_render (textLine_mem_lines_nest code (enclosure :: rest)) start

/-- Code that stands alone in its containers is all they show. -/
theorem text_render_nest_of_isBare (hbare : ∀ enclosure ∈ enclosures, enclosure.isBare)
    (start : Int) :
    ((nest enclosures (codeBlock code)).render start).text =
      shownCode enclosures code ++ ['\n'] := by
  cases enclosures with
  | nil => rfl
  | cons enclosure rest =>
      exact Enclosure.text_render_of_lines (lines_nest_of_isBare code _ hbare) start

/-- Code is shown as it is written unless something stands around it and it has an entity. -/
theorem shownCode_eq_literalCode_iff :
    shownCode enclosures code = literalCode code ↔
      enclosures = [] ∨ ¬ HasEntity (literalCode code) := by
  cases enclosures with
  -- Outside of all containers nothing is decoded.
  | nil => simp [shownCode]
  | cons enclosure rest => simp [shownCode, decodeEntities_eq_self_iff]

/-- Decoded code is too short to hold the code that was written. -/
theorem literalCode_isInfix_shownCode_iff :
    literalCode code <:+: shownCode enclosures code ++ ['\n'] ↔
      enclosures = [] ∨ ¬ HasEntity (literalCode code) := by
  constructor
  · intro hinfix
    cases enclosures with
    | nil => exact .inl rfl
    | cons enclosure rest =>
        refine .inr fun hentity => ?_
        -- Every entity that is decoded takes away three characters at least.
        have hlength := hinfix.length_le
        have hshort := length_decodeEntities_add_three_le hentity
        simp only [shownCode, List.isEmpty_cons, Bool.false_eq_true, if_false, List.length_append,
          List.length_singleton] at hlength
        omega
  · intro hliteral
    rw [(shownCode_eq_literalCode_iff code enclosures).mpr hliteral]
    exact (List.prefix_append _ _).isInfix

/-- The text of a code block stands in the document on lines of its own, as it is at the
top and with its entities decoded inside lists and quotes. So it stands there as it was
written exactly at the top or if no entity occurs in it. In a document of nothing but
this block the code occurs as it was written in no other case either. -/
theorem compile_shows_nested_code (start : Int) :
    (∀ earlier later, HasLines (shownCode enclosures code)
      (compile (earlier ++ nest enclosures (codeBlock code) :: later) start).text) ∧
    (shownCode enclosures code = literalCode code ↔
      enclosures = [] ∨ ¬ HasEntity (literalCode code)) ∧
    ((∀ enclosure ∈ enclosures, enclosure.isBare) →
      (literalCode code <:+: (compile [nest enclosures (codeBlock code)] start).text ↔
        enclosures = [] ∨ ¬ HasEntity (literalCode code))) := by
  refine ⟨?_, shownCode_eq_literalCode_iff code enclosures, ?_⟩
  · intro earlier later
    exact hasLines_compile (by simp) (hasLines_render_nest code enclosures) start
  · intro hbare
    have htext : (compile [nest enclosures (codeBlock code)] start).text =
        shownCode enclosures code ++ ['\n'] := by
      rw [← text_render_nest_of_isBare code enclosures hbare start]
      exact List.append_nil _
    rw [htext]
    exact literalCode_isInfix_shownCode_iff code enclosures

end Nesting

/-- A comparison in a list item inside a quote. -/
def quotedComparison : Block :=
  nest [.quote [] [], .item false [] [] [] []] (codeBlock "x < y\n".toList)

/-- A comparison in a quoted list item has no entity and is shown as it is written. -/
theorem quotedComparison_is_literal :
    (∀ enclosure ∈ [Enclosure.quote [] [], .item false [] [] [] []], enclosure.isBare) ∧
      "x < y".toList <:+: (compile [quotedComparison]).text := by
  have hbare : ∀ enclosure ∈ [Enclosure.quote [] [], .item false [] [] [] []],
      enclosure.isBare := by decide
  have hentity : ¬ HasEntity (literalCode "x < y\n".toList) := by decide +kernel
  exact ⟨hbare, ((compile_shows_nested_code _ _ _).2.2 hbare).mpr (.inr hentity)⟩

/-- An ampersand written as an entity, in a quote. -/
def quotedEntity : Block :=
  nest [.quote [] []] (codeBlock "&amp;".toList)

/-- The entity is decoded, and the document does not have the code as it was written. -/
theorem quotedEntity_is_decoded :
    (compile [quotedEntity]).text = "&\n".toList ∧
      ¬ literalCode "&amp;".toList <:+: (compile [quotedEntity]).text := by
  decide +kernel

end DocPress
