import DocPress.Proofs.BlockRanges
import DocPress.Proofs.MemoryDocument.Batches

/-!
# The batch of a compilation

The requests of a compilation insert its text into a paragraph of a document and style it
there. Two systems of positions meet in such a batch: the compiler counts code units from
the start of its text, and the document counts characters, with positions of their own for
its tables. Where every character is one code unit they agree, and each style is noted
with the characters that it was compiled for. Nothing is said of texts with characters of
two code units, which a document in memory may refuse.
-/

namespace DocPress

open MemoryDocument

/-- Where no character takes two code units, both count alike. -/
theorem units_eq_length {text : Text} (hplane : ∀ c ∈ text, c.toNat < 0x10000) :
    units text = text.length := by
  induction text with
  | nil => rfl
  | cons c rest ih =>
      rw [units_cons, ih fun other hmem => hplane other (List.mem_cons_of_mem _ hmem), charUnits,
        if_pos (hplane c List.mem_cons_self), List.length_cons, Nat.add_comm]

/-! ## The text that a range covers -/

namespace MemoryDocument

variable {start stop position : Int}

/-- The second of two texts begins where the first one ends. -/
theorem charsAt_append (test : Int → Bool) (position : Int) (first second : Text) :
    charsAt test position (first ++ second) =
      charsAt test position first ++ charsAt test (position + first.length) second := by
  induction first generalizing position with
  | nil => simp [charsAt]
  | cons c rest ih =>
      have hnext : position + 1 + rest.length = position + (c :: rest).length := by
        rw [List.length_cons]
        omega
      rw [List.cons_append, charsAt, ih, hnext, charsAt]
      split
      · rfl
      · rfl

/-- Cutting a text into paragraphs does not change what a range of it covers. -/
theorem IsLines.textWithin_paragraphs {text : Text} (hlines : IsLines text) :
    textWithin start stop position (paragraphs text) =
      charsAt (isWithin start stop) position text := by
  induction hlines generalizing position with
  | nil => rfl
  | @cons line rest hline _ ih =>
      have hjoin : line ++ '\n' :: rest = (line ++ ['\n']) ++ rest := by simp
      rw [paragraphs_line_append hline, textWithin, ih, hjoin,
        charsAt_append _ _ (line ++ ['\n'])]

section Splice

variable {before after : List Element} {line inserted : Text} {offset : Nat}

/-- Inserted before the line end of a paragraph, any text gives lines with their line ends. -/
theorem isLines_splice (hline : IsParagraph line) (hoffset : offset < line.length)
    (inserted : Text) : IsLines (splice offset inserted line) := by
  obtain ⟨body, hbody, _⟩ := hline.drop hoffset
  rw [splice, hbody, ← List.append_assoc]
  exact isLines_append_lineEnd _

theorem length_splice (hoffset : offset < line.length) (inserted : Text) :
    (splice offset inserted line).length = line.length + inserted.length := by
  rw [splice, List.length_append, List.length_append, List.length_take, List.length_drop]
  omega

/-- A range inside an inserted text covers that part of the inserted text. -/
theorem textWithin_splice {origin : Int} (hline : IsParagraph line)
    (horigin : origin = stopOf before + offset) (hoffset : offset < line.length)
    (hstart : origin ≤ start) (hstop : stop ≤ origin + inserted.length) :
    textWithin start stop bodyStart
        (before ++ paragraphs (splice offset inserted line) ++ after) =
      (inserted.take (stop - origin).toNat).drop (start - origin).toNat := by
  have hlines := isLines_splice hline hoffset inserted
  have htake : (line.take offset).length = offset := List.length_take_of_le (Nat.le_of_lt hoffset)
  rw [stopOf_eq] at horigin
  have hbefore : textWithin start stop bodyStart before = [] := by
    apply textWithin_eq_nil
    rw [bodyStart]
    omega
  have hafter : textWithin start stop
      (bodyStart + elementsSize (before ++ paragraphs (splice offset inserted line))) after =
        [] := by
    apply textWithin_eq_nil
    rw [elementsSize_append, hlines.elementsSize_paragraphs, length_splice hoffset, bodyStart]
    omega
  -- The line is left with what stands before the text and what stands after it.
  have hfront : charsAt (isWithin start stop) (bodyStart + elementsSize before)
      (line.take offset) = [] := by
    apply charsAt_eq_nil
    rw [htake, bodyStart]
    omega
  have hback : charsAt (isWithin start stop) (origin + inserted.length) (line.drop offset) =
      [] := charsAt_eq_nil (Or.inl hstop)
  have hplace : bodyStart + elementsSize before + (line.take offset).length = origin := by
    rw [htake, bodyStart]
    omega
  rw [textWithin_append, hafter, List.append_nil, textWithin_append, hbefore, List.nil_append,
    hlines.textWithin_paragraphs, splice, List.append_assoc, charsAt_append, charsAt_append,
    hfront, hplace, hback, List.nil_append, List.append_nil, charsAt_isWithin]

end Splice

end MemoryDocument

/-! ## The styles of a compilation -/

/-- The record of an operation over a text that begins at `origin`. -/
def StyleOperation.record (origin : Int) (text : Text) (operation : StyleOperation) :
    StyleRecord :=
  { request := operation.toRequest.name
    start := operation.start
    stop := operation.stop
    text := (text.take (operation.stop - origin).toNat).drop (operation.start - origin).toNat
    style := styleOfBody operation.toRequest.body }

/-- The request of an operation is read as a style over the range of the operation. -/
theorem StyleOperation.toRequest_edit (operation : StyleOperation) :
    operation.toRequest.edit =
      .style operation.toRequest.name operation.start operation.stop
        (styleOfBody operation.toRequest.body) := by
  obtain ⟨start, stop, style⟩ := operation
  cases style with
  | paragraph attributes => rfl
  | text attributes => rfl
  | bullets preset attributes => rfl
  | other kind attributes => rfl

/-- Operations inside an inserted text change no element, and are noted in their order with
the parts of the text that they cover. -/
theorem performs_operations {operations : List StyleOperation} {before : List Element}
    {line inserted : Text} {offset : Nat} {origin : Int} (after : List Element)
    (hline : IsParagraph line) (horigin : origin = stopOf before + offset)
    (hoffset : offset < line.length)
    (hoperations : ∀ operation ∈ operations, origin ≤ operation.start ∧
      operation.start < operation.stop ∧ operation.stop ≤ origin + inserted.length) :
    Performs (operations.map StyleOperation.toRequest)
      (before ++ paragraphs (splice offset inserted line) ++ after)
      (operations.map (·.record origin inserted))
      (before ++ paragraphs (splice offset inserted line) ++ after) := by
  induction operations with
  | nil => exact performs_nil _
  | cons operation rest ih =>
      have hrest := ih fun other hmem => hoperations other (List.mem_cons_of_mem _ hmem)
      obtain ⟨hstart, hlt, hstop⟩ := hoperations operation List.mem_cons_self
      have hbody : 1 ≤ operation.start := by
        rw [stopOf_eq] at horigin
        omega
      have hinside : operation.stop ≤ stopOf
          (before ++ paragraphs (splice offset inserted line) ++ after) := by
        rw [stopOf_eq, elementsSize_append, elementsSize_append,
          (isLines_splice hline hoffset inserted).elementsSize_paragraphs, length_splice hoffset]
        rw [stopOf_eq] at horigin
        omega
      have hstyle := performs_style operation.toRequest_edit hbody hlt hinside
      rw [textWithin_splice hline horigin hoffset hstart hstop] at hstyle
      exact hstyle.append hrest

/-- An operation of a compilation lies in its text. -/
theorem compile_operations_within {blocks : List Block} {start : Int} {operation : StyleOperation}
    (hmem : operation ∈ (compile blocks start).operations) :
    start ≤ operation.start ∧ operation.start < operation.stop ∧
      operation.stop ≤ start + units (compile blocks start).text := by
  obtain ⟨index, output, houtput, hmem⟩ := mem_compile_operations.mp hmem
  have hlies := liesIn_compile houtput hmem
  exact ⟨hlies.start_le, hlies.start_lt_stop, hlies.stop_le⟩

section Text

variable {before after : List Element} {line : Text} {offset : Nat} {blocks : List Block}
  {start : Int}

/-- The requests of a compilation put its text into a paragraph, change no other element,
and note all of its operations. -/
theorem performs_requests {elements : List Element}
    (helements : elements = before ++ .paragraph line :: after)
    (hparagraphs : ∀ text, .paragraph text ∈ elements → IsParagraph text)
    (hstart : start = stopOf before + offset) (hoffset : offset < line.length)
    (hplane : ∀ c ∈ (compile blocks start).text, c.toNat < 0x10000) :
    Performs (compile blocks start).requests elements
      ((compile blocks start).operations.map (·.record start (compile blocks start).text))
      (before ++ paragraphs (splice offset (compile blocks start).text line) ++ after) := by
  subst helements
  have hline : IsParagraph line := hparagraphs line (by simp)
  have hoperations : ∀ operation ∈ (compile blocks start).operations, start ≤ operation.start ∧
      operation.start < operation.stop ∧
      operation.stop ≤ start + (compile blocks start).text.length := by
    intro operation hmem
    rw [← units_eq_length hplane]
    exact compile_operations_within hmem
  have hstyles := performs_operations after hline hstart hoffset hoperations
  -- A compilation without text has no request that inserts it.
  by_cases htext : (compile blocks start).text = []
  · have hsame : paragraphs (splice offset (compile blocks start).text line) =
        [.paragraph line] := by
      rw [htext, splice, List.append_nil, List.take_append_drop, hline.paragraphs_eq]
    have hrequests : (compile blocks start).requests =
        (compile blocks start).operations.map StyleOperation.toRequest := by
      rw [Compilation.requests, if_pos (by simpa using htext), List.nil_append]
    rw [hsame, List.append_assoc, List.singleton_append] at hstyles
    rw [hrequests, hsame, List.append_assoc, List.singleton_append]
    exact hstyles
  · have hlines := isLines_splice hline hoffset (compile blocks start).text
    have hinsert := performs_insertText
      (insertText_paragraph hparagraphs hstart hoffset htext hlines)
    have hrequests : (compile blocks start).requests =
        [.insertText start (compile blocks start).text] ++
          (compile blocks start).operations.map StyleOperation.toRequest := by
      rw [Compilation.requests, if_neg (by simpa using htext)]
      rfl
    rw [← List.append_assoc] at hinsert
    rw [hrequests]
    exact hinsert.append hstyles

/-- A document takes the batch of a compilation for a place in one of its paragraphs, unless
this batch was chosen to fail. Its text is the old one with the compiled text at the place,
its tables stay as they are, and every operation is noted, in the order of the batch, with
the part of the compiled text between its two ends. -/
theorem mutate_applies_compilation {document : MemoryDocument} {id : Option String}
    (hid : document.id = id) (hspared : document.failAt ≠ some ↑(document.mutations + 1))
    (helements : document.elements = before ++ .paragraph line :: after)
    (hparagraphs : ∀ text, .paragraph text ∈ document.elements → IsParagraph text)
    (hstart : start = stopOf before + offset) (hoffset : offset < line.length)
    (hplane : ∀ c ∈ (compile blocks start).text, c.toNat < 0x10000) :
    let result := compile blocks start
    ∃ drafted, Yields (client.mutate id result.requests) document
        (batchReply id result.requests) drafted ∧
      drafted.text =
        textOf before ++ (line.take offset ++ result.text ++ line.drop offset) ++ textOf after ∧
      drafted.tables = document.tables ∧
      drafted.elements = before ++ paragraphs (splice offset result.text line) ++ after ∧
      drafted.styles = document.styles ++ result.operations.map (·.record start result.text) := by
  intro result
  have hline : IsParagraph line := hparagraphs line (by rw [helements]; simp)
  have hdraft := performs_requests helements hparagraphs hstart hoffset hplane
  refine ⟨_, yields_mutate_of_performs hid hspared hdraft, ?_, ?_, rfl, rfl⟩
  · change textOf (before ++ paragraphs (splice offset result.text line) ++ after) = _
    rw [textOf_append, textOf_append, (isLines_splice hline hoffset _).textOf_paragraphs, splice]
  · change tablesOf (before ++ paragraphs (splice offset result.text line) ++ after) =
      tablesOf document.elements
    rw [helements]
    simp

end Text

/-- A document whose only line with text follows a table. -/
def tabledDocument : MemoryDocument :=
  { id := some "d"
    title := none
    elements := [.table [[['p', 'q']]], .paragraph ['a', 'b', '\n']] }

theorem tabledDocument_isParagraph {text : Text}
    (hmem : .paragraph text ∈ tabledDocument.elements) :
    IsParagraph text := by
  simp only [tabledDocument, List.mem_cons, Element.paragraph.injEq, reduceCtorEq, false_or,
    or_false, List.not_mem_nil] at hmem
  subst hmem
  exact ⟨['a', 'b'], rfl, by decide⟩

/-- A heading with a bold word. -/
def boldHeading : List Block :=
  [{ kind := .heading
     depth := 1
     content := [{ kind := .text, text := ['H', ' '] },
       { kind := .strong, children := [{ kind := .text, text := ['x'] }] }] }]

/-- The heading goes into the line after the table, and both of its styles are noted there. -/
theorem mutate_applies_boldHeading :
    ∃ drafted, Yields (client.mutate (some "d") (compile boldHeading 9).requests) tabledDocument
        (batchReply (some "d") (compile boldHeading 9).requests) drafted ∧
      drafted.text = "aH x\nb\n".toList ∧ drafted.tables = [[[['p', 'q']]]] ∧
      drafted.styles.map StyleRecord.text = ["H x".toList, ['x']] := by
  have htext : (compile boldHeading 9).text = ['H', ' ', 'x', '\n'] := by decide +kernel
  have hplane : ∀ c ∈ (compile boldHeading 9).text, c.toNat < 0x10000 := by
    simp [htext]
  have hnoted : ((compile boldHeading 9).operations.map
      (·.record 9 (compile boldHeading 9).text)).map StyleRecord.text =
        ["H x".toList, ['x']] := by decide +kernel
  obtain ⟨drafted, hmutate, hdrafted, htables, _, hstyles⟩ :=
    @mutate_applies_compilation [.table [[['p', 'q']]]] [] ['a', 'b', '\n'] 1 boldHeading 9
      tabledDocument (some "d") rfl (by decide) rfl (fun _ => tabledDocument_isParagraph) rfl
      (by decide) hplane
  refine ⟨drafted, hmutate, ?_, htables, ?_⟩
  · rw [hdrafted, htext]
    decide
  · rw [hstyles, ← hnoted]
    rfl

end DocPress
