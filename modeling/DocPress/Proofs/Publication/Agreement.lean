import DocPress.Proofs.Folding.Blocks
import DocPress.Proofs.MemoryDocument.Reading
import DocPress.Proofs.Relocation
import DocPress.Proofs.Tables.Placement
import DocPress.Publication.Operations

/-!
# What is published does not depend on the document

Markdown can be inserted at the end of a document, appended to it, or put in the place of
everything that it holds. What then stands in the document, and how it looks, is what the
same Markdown gives in an empty document. Only the first paragraph may differ, when it
continues the last one of the document.
-/

namespace DocPress

open MemoryDocument TableDescriptor

/-! ## How a text looks -/

/-- What a record says apart from the positions: the request, the style and the text. -/
structure Look where
  /-- The name of the request. -/
  request : String
  /-- The style. -/
  style : Json
  /-- The text covered. -/
  text : Text

/-- The look that a record notes. -/
def MemoryDocument.StyleRecord.look (record : StyleRecord) : Look :=
  { request := record.request, style := record.style, text := record.text }

/-- The looks of bold texts; empty ones have none. -/
def boldLooks (texts : List Text) : List Look :=
  (texts.filter fun text => !text.isEmpty).map fun text =>
    { request := "updateTextStyle", style := .object [("bold", .bool true)], text }

theorem NotesBold.map_look {records : List StyleRecord} {texts : List Text}
    (hbold : NotesBold records texts) : records.map StyleRecord.look = boldLooks texts := by
  rw [boldLooks, ← hbold.text_eq, List.map_map]
  apply List.map_congr_left
  intro record hmem
  simp only [StyleRecord.look, Function.comp_apply, hbold.request_eq record hmem,
    hbold.style_eq record hmem]

/-- An operation that was moved together with its text looks the same. -/
theorem StyleOperation.look_record_moveBy (operation : StyleOperation) (origin distance : Int)
    (text : Text) :
    ((operation.moveBy distance).record (origin + distance) text).look =
      (operation.record origin text).look := by
  obtain ⟨start, stop, style⟩ := operation
  have hstart : start + distance - (origin + distance) = start - origin := by omega
  have hstop : stop + distance - (origin + distance) = stop - origin := by omega
  cases style <;> simp only [record, StyleRecord.look, moveBy, hstart, hstop] <;> rfl

/-- The looks that a compilation gives to a document, when its tables show some texts. -/
def Compilation.looks (compilation : Compilation) (shown : List TableDescriptor) : List Look :=
  (compilation.operations.map fun operation =>
      (operation.record compilation.start compilation.text).look) ++
    boldLooks (shown.reverse.flatMap headerCells)

/-! ## Elements that continue a paragraph -/

/-- Elements of which the first one, if it is a paragraph, continues a line. -/
def continued (line : Text) : List Element → List Element
  | .paragraph text :: rest => .paragraph (line ++ text) :: rest
  | elements => elements

/-- The same table some way further on. -/
def AnchoredTable.moveBy (distance : Int) (table : AnchoredTable) : AnchoredTable :=
  { anchor := table.anchor + distance, table := table.table.moveBy distance }

section Continued

variable {before after : List Element} {last text : Text} {tables : List AnchoredTable}

theorem continued_nil (elements : List Element) : continued [] elements = elements := by
  unfold continued
  split
  · rfl
  · rfl

/-- What follows the first of some elements has no part in how a line goes on. -/
theorem continued_append {elements : List Element} (helements : elements ≠ []) (line : Text)
    (rest : List Element) :
    continued line (elements ++ rest) = continued line elements ++ rest := by
  obtain ⟨element, others, rfl⟩ := List.exists_cons_of_ne_nil helements
  cases element with
  | paragraph text => rfl
  | table cells => rfl

/-- The first line of a text goes on in the line before it. -/
theorem paragraphs_continued (hlast : '\n' ∉ last) (hlines : IsLines text) (htext : text ≠ []) :
    paragraphs (last ++ text) = continued last (paragraphs text) := by
  cases hlines with
  | nil => exact absurd rfl htext
  | @cons line rest hline hrest =>
      have hjoined : '\n' ∉ last ++ line := by
        rw [List.mem_append, not_or]
        exact ⟨hlast, hline⟩
      rw [← List.append_assoc, paragraphs_line_append hjoined, paragraphs_line_append hline,
        continued, List.append_assoc]

theorem paragraphs_ne_nil (hlines : IsLines text) (htext : text ≠ []) : paragraphs text ≠ [] := by
  intro hnone
  have hsame := hlines.textOf_paragraphs
  rw [hnone] at hsame
  exact htext hsame.symm

/-- Tables are placed behind some elements and a line as they are placed on their own, and the
line is continued. -/
theorem placed_continued (hlast : '\n' ∉ last) (hlines : IsLines text) (htext : text ≠ [])
    (htables : ∀ table ∈ tables, stopOf [] ≤ table.anchor) :
    placed before (last ++ text) after
        (tables.map (·.moveBy (stopOf before + last.length - stopOf []))) =
      before ++ continued last (placed [] text after tables) := by
  induction tables generalizing text after with
  | nil =>
      rw [List.map_nil, placed, placed, List.nil_append, paragraphs_continued hlast hlines htext,
        continued_append (paragraphs_ne_nil hlines htext), List.append_assoc]
  | cons table rest ih =>
      have hlow := htables table List.mem_cons_self
      generalize hoffset : (table.anchor - stopOf []).toNat = offset
      -- Counted from the elements before, the anchor lies further on by the line that is there.
      have hmoved : ((table.moveBy (stopOf before + last.length - stopOf [])).anchor -
          stopOf before).toNat = last.length + offset := by
        simp only [AnchoredTable.moveBy]
        omega
      rw [List.map_cons, placed_cons hmoved, placed_cons hoffset, List.take_length_add_append,
        List.drop_length_add_append, List.append_assoc,
        ← ih (isLines_append_lineEnd _) (by simp) fun other hmem =>
          htables other (List.mem_cons_of_mem _ hmem)]
      rfl

/-- However many tables are placed in it, a text has a paragraph before the first of them. -/
theorem exists_paragraph_placed (hlines : IsLines text) (htext : text ≠ []) :
    ∃ first rest, placed [] text after tables = .paragraph first :: rest := by
  induction tables generalizing text after with
  | nil =>
      cases hlines with
      | nil => exact absurd rfl htext
      | @cons line others hline _ =>
          refine ⟨line ++ ['\n'], paragraphs others ++ after, ?_⟩
          rw [placed, paragraphs_line_append hline]
          rfl
  | cons table rest ih =>
      rw [placed]
      exact ih (isLines_append_lineEnd _) (by simp)

end Continued

/-! ## The last line end of a document -/

section Last

variable {document : MemoryDocument} {before : List Element} {last : Text}

theorem stop_eq (helements : document.elements = before ++ [.paragraph (last ++ ['\n'])]) :
    document.stop = stopOf before + last.length + 1 := by
  rw [MemoryDocument.stop, helements]
  simp [stopOf_eq, Int.add_assoc]

/-- The last line end is found by counting back one position from the end of the body. -/
theorem lastLineEnd_snapshot
    (helements : document.elements = before ++ [.paragraph (last ++ ['\n'])]) :
    Publication.lastLineEnd document.snapshot = stopOf before + last.length := by
  rw [Publication.lastLineEnd, stop_snapshot, Option.getD_some, stop_eq helements, stopOf_eq]
  omega

/-- Nothing is left of a text that lies in a range. -/
theorem charsAt_outside {start stop position : Int} {text : Text} (hstart : start ≤ position)
    (hstop : position + text.length ≤ stop) :
    charsAt (fun position => !isWithin start stop position) position text = [] := by
  induction text generalizing position with
  | nil => rfl
  | cons c rest ih =>
      rw [List.length_cons] at hstop
      have hwithin : isWithin start stop position := by
        rw [isWithin, Bool.and_eq_true, decide_eq_true_eq, decide_eq_true_eq]
        omega
      rw [charsAt, ih (by omega) (by omega), hwithin]
      rfl

/-- Elements that lie in a range go as a whole. -/
theorem deleteFrom_append {start stop position : Int} (rest : List Element)
    (hstart : start ≤ position) (hstop : position + elementsSize before ≤ stop) :
    deleteFrom start stop position (before ++ rest) =
      deleteFrom start stop (position + elementsSize before) rest := by
  induction before generalizing position with
  | nil => simp
  | cons element others ih =>
      rw [elementsSize_cons] at *
      have hrest := ih (show start ≤ position + element.size by omega) (by omega)
      have hposition : position + element.size + elementsSize others =
          position + ↑(element.size + elementsSize others) := by omega
      rw [hposition] at hrest
      cases element with
      | paragraph text =>
          rw [size_paragraph] at *
          rw [List.cons_append, deleteFrom, charsAt_outside hstart (by omega), hrest]
          exact bind_pure _
      | table cells =>
          rw [size_table] at *
          rw [List.cons_append, deleteFrom, if_pos ⟨hstart, by omega⟩]
          exact hrest

/-- A document that is cleared is left with its last line end. -/
theorem deleteRange_eq_blank (hmore : 1 < stopOf before + last.length) :
    deleteRange 1 (stopOf before + last.length) (before ++ [.paragraph (last ++ ['\n'])]) =
      .ok blank := by
  have hinside : stopOf before + last.length <
      stopOf (before ++ [.paragraph (last ++ ['\n'])]) := by
    simp only [stopOf_eq, elementsSize_append, elementsSize_cons, size_paragraph, elementsSize_nil,
      List.length_append, List.length_singleton]
    omega
  -- All characters of the last line go, and the line end behind them stays.
  have hlast : charsAt (fun position => !isWithin 1 (stopOf before + last.length) position)
      (bodyStart + elementsSize before) (last ++ ['\n']) = ['\n'] := by
    have hbody : (1 : Int) ≤ bodyStart + elementsSize before := by
      rw [bodyStart]
      omega
    have hwithin : isWithin 1 (stopOf before + last.length)
        (bodyStart + elementsSize before + last.length) = false := by
      rw [isWithin, Bool.and_eq_false_iff, decide_eq_false_iff_not, decide_eq_false_iff_not, stopOf]
      omega
    have hfront : charsAt (fun position => !isWithin 1 (stopOf before + last.length) position)
        (bodyStart + elementsSize before) last = [] := charsAt_outside hbody (Int.le_refl _)
    rw [charsAt_append, hfront, charsAt, hwithin]
    rfl
  have hdelete : deleteFrom 1 (stopOf before + last.length) bodyStart
      (before ++ [.paragraph (last ++ ['\n'])]) = .ok [.paragraph ['\n']] := by
    rw [deleteFrom_append _ (show (1 : Int) ≤ bodyStart from Int.le_refl _) (by rw [stopOf]; omega),
      deleteFrom, hlast]
    rfl
  rw [deleteRange, if_pos ⟨Int.le_refl _, hmore, hinside⟩, hdelete]
  rfl

/-- Every element takes a position at least, so that none are left where there is no room. -/
theorem eq_nil_of_elementsSize {elements : List Element}
    (hparagraphs : ∀ text, .paragraph text ∈ elements → IsParagraph text)
    (hsize : elementsSize elements = 0) : elements = [] := by
  cases elements with
  | nil => rfl
  | cons element rest =>
      rw [elementsSize_cons] at hsize
      cases element with
      | paragraph text =>
          obtain ⟨line, rfl, _⟩ := hparagraphs text List.mem_cons_self
          rw [size_paragraph, List.length_append, List.length_singleton] at hsize
          omega
      | table cells =>
          rw [size_table] at hsize
          omega

/-- Clearing a document leaves it without text, and notes no style. -/
theorem performs_clearing
    (helements : document.elements = before ++ [.paragraph (last ++ ['\n'])])
    (hparagraphs : ∀ text, .paragraph text ∈ document.elements → IsParagraph text) :
    Performs (Publication.clearing document.snapshot) document.elements [] blank := by
  rw [Publication.clearing, lastLineEnd_snapshot helements]
  split
  next hmore =>
    refine performs_change (fun _ => rfl) ?_
    rw [helements]
    exact deleteRange_eq_blank hmore
  -- There is nothing to delete only if the document is blank.
  next hnothing =>
    rw [stopOf_eq] at hnothing
    obtain rfl := List.length_eq_zero_iff.mp (show last.length = 0 by omega)
    obtain rfl : before = [] := by
      refine eq_nil_of_elementsSize (fun text hmem => hparagraphs text ?_) (by omega)
      rw [helements]
      exact List.mem_append_left _ hmem
    rw [helements]
    exact performs_nil _

end Last

/-! ## Applying a compilation -/

/-- Whether an action succeeds on a document, leaves it with the given elements, and notes
styles with the given looks. -/
def Publishes {α : Type} (action : Action MemoryDocument α) (document : MemoryDocument)
    (elements : List Element) (looks : List Look) : Prop :=
  ∃ value after records, Yields action document value after ∧ after.elements = elements ∧
    after.styles = document.styles ++ records ∧ records.map StyleRecord.look = looks

section Publishes

variable {α β : Type} {document : MemoryDocument} {elements : List Element} {looks : List Look}

theorem Publishes.bind_pure {action : Action MemoryDocument α}
    (haction : Publishes action document elements looks) (result : α → β) :
    Publishes (action >>= fun value => pure (result value)) document elements looks := by
  obtain ⟨value, after, records, hyields, hafter⟩ := haction
  exact ⟨result value, after, records, hyields.bind (yields_pure _), hafter⟩

/-- A step that only reads. -/
theorem Yields.publishes_bind {first : Action MemoryDocument α}
    {rest : α → Action MemoryDocument β} {value : α} (hfirst : Yields first document value document)
    (hrest : Publishes (rest value) document elements looks) :
    Publishes (first >>= rest) document elements looks := by
  obtain ⟨result, after, records, hyields, hafter⟩ := hrest
  exact ⟨result, after, records, hfirst.bind hyields, hafter⟩

end Publishes

/-- The insertion of tables counts the generations for itself, and no tables need no count. -/
theorem Publication.insertTables_eq {σ : Type} (client : Client σ) (id : Option String)
    (tables : List TableDescriptor) :
    insertTables client id tables = ExceptT.mk fun state =>
      let (result, tracked) := (Tracked.insertTables client id tables).run.run { state }
      (result, tracked.state) := by
  rw [insertTables]
  split
  next hempty =>
    have hnone : Tracked.insertTables client id [] = pure {} := by
      change Tracked.insertFrom client id 0 (AnchoredTable.lastFirst []) = _
      rw [AnchoredTable.lastFirst, List.mergeSort_nil]
      rfl
    rw [List.isEmpty_iff.mp hempty, hnone]
    rfl
  next => rfl

/-- A run that counts the generations does to the document what one without a count does. -/
theorem Publication.run_insertTables {σ : Type} {client : Client σ} {id : Option String}
    {tables : List TableDescriptor} {state : σ} {result : Except Failure TableReport}
    {after : Tracked σ}
    (hinsert : (Tracked.insertTables client id tables).run.run { state } = (result, after)) :
    (insertTables client id tables).run.run state = (result, after.state) := by
  rw [insertTables_eq, ExceptT.run_mk]
  change (((Tracked.insertTables client id tables).run.run { state }).1,
    ((Tracked.insertTables client id tables).run.run { state }).2.state) = _
  rw [hinsert]

section Apply

variable {document : MemoryDocument} {id : Option String} {before after : List Element}
  {line : Text} {offset : Nat} {blocks : List Block} {start : Int} {first : List Request}

/-- A batch is sent unless it is empty, and the run goes on. -/
theorem exists_yields_send {α : Type} {requests : List Request} {records : List StyleRecord}
    {edited : List Element} (hid : document.id = id) (hspared : document.failAt = none)
    (hperforms : Performs requests document.elements records edited) :
    ∃ batches, ∀ (rest : Action MemoryDocument α) (value : α) (after : MemoryDocument),
      Yields rest (document.reach batches ⟨edited, document.styles ++ records⟩) value after →
        Yields (if requests.isEmpty then rest else client.mutate id requests >>= fun _ => rest)
          document value after := by
  by_cases hnone : requests = []
  · -- Nothing is sent, so the run goes on from the document as it is.
    subst hnone
    obtain ⟨rfl, rfl⟩ := hperforms.of_nil
    refine ⟨0, fun rest value after hrest => ?_⟩
    rw [List.append_nil] at hrest
    exact hrest
  · have hsome : ¬ requests.isEmpty := by simpa using hnone
    refine ⟨1, fun rest value after hrest => ?_⟩
    rw [if_neg hsome]
    exact (yields_mutate_of_performs hid (not_chosen hspared 0) hperforms).bind hrest

/-- A compilation is published in a document that has been made ready for it. -/
theorem publishes_applyCompilation (hid : document.id = id) (hspared : document.failAt = none)
    (hfirst : Performs first document.elements [] (before ++ .paragraph line :: after))
    (hparagraphs : ∀ text, .paragraph text ∈ before ++ .paragraph line :: after → IsParagraph text)
    (hstart : start = stopOf before + offset) (hoffset : offset < line.length)
    (hplane : ∀ c ∈ (compile blocks start).text, c.toNat < 0x10000) :
    let result := compile blocks start
    let shown := result.tables.map document.seen
    Publishes (Publication.applyCompilation client id first result) document
      (placed before (splice offset result.text line) after
        (shown.map TableDescriptor.anchored).reverse)
      (result.looks shown) := by
  intro result shown
  have hdraft := hfirst.append (performs_requests rfl hparagraphs hstart hoffset hplane)
  obtain ⟨batches, hsend⟩ := exists_yields_send hid hspared hdraft
  obtain ⟨report, records, hinsert, hbold⟩ := @exists_yields_insertTables id
    { state := document.reach batches ⟨_, document.styles ++ _⟩ } before after line offset blocks
    start _ hid hspared (hparagraphs line (by simp)) hstart hoffset hplane (List.Perm.refl _) rfl
  have hrun : Yields (Publication.applyCompilation client id first result) document
      { compilation := result, report } _ :=
    hsend _ _ _ (Yields.bind (Publication.run_insertTables hinsert) (yields_pure _))
  refine ⟨_, _, _, hrun, rfl, List.append_assoc _ _ _, ?_⟩
  rw [List.nil_append, List.map_append, List.map_map, hbold.map_look]
  rfl

end Apply

/-! ## Publishing behind a line -/

/-- Further on a compilation looks the same. -/
theorem Compilation.looks_moveBy (compilation : Compilation) (shown : List TableDescriptor)
    (distance : Int) :
    (compilation.moveBy distance).looks (shown.map (·.moveBy distance)) =
      compilation.looks shown := by
  have hlooks : ((compilation.operations.map (·.moveBy distance)).map fun operation =>
      (operation.record (compilation.start + distance) compilation.text).look) =
      compilation.operations.map fun operation =>
        (operation.record compilation.start compilation.text).look := by
    rw [List.map_map]
    apply List.map_congr_left
    intro operation _
    exact operation.look_record_moveBy _ _ _
  have hheaders : (shown.map (·.moveBy distance)).reverse.flatMap headerCells =
      shown.reverse.flatMap headerCells := by
    rw [← List.map_reverse, List.flatMap_map]
    rfl
  simp only [looks, moveBy, hlooks, hheaders]

/-- What is put before the line end of the last line stands behind the line. -/
theorem splice_lineEnd (last text : Text) :
    splice last.length text (last ++ ['\n']) = last ++ (text ++ ['\n']) := by
  rw [splice, List.take_left, List.drop_left, List.append_assoc]

/-- The elements of a document that had no text, when a compilation was published there. -/
def Compilation.elements (compilation : Compilation) (shown : List TableDescriptor) :
    List Element :=
  placed [] (compilation.text ++ ['\n']) [] (shown.map TableDescriptor.anchored).reverse

section Behind

variable {document : MemoryDocument} {id : Option String} {before : List Element} {last : Text}
  {blocks : List Block} {start : Int} {first : List Request}

/-- The elements are those of an empty document, behind what stands there already. -/
theorem placed_compile {distance : Int} (hlast : '\n' ∉ last)
    (hdistance : distance = stopOf before + last.length - stopOf []) (document : MemoryDocument) :
    placed before (splice last.length (compile blocks (1 + distance)).text (last ++ ['\n'])) []
        ((((compile blocks (1 + distance)).tables.map document.seen).map
          TableDescriptor.anchored).reverse) =
      before ++ continued last
        ((compile blocks).elements ((compile blocks).tables.map document.seen)) := by
  have htables : ((compile blocks (1 + distance)).tables.map document.seen).map
      TableDescriptor.anchored =
      (((compile blocks).tables.map document.seen).map TableDescriptor.anchored).map
        (·.moveBy distance) := by
    rw [compile_add]
    simp only [Compilation.moveBy, List.map_map]
    apply List.map_congr_left
    intro table hmem
    obtain ⟨anchor, hanchor⟩ := exists_anchor_of_mem_compile hmem
    simp [MemoryDocument.seen, TableDescriptor.anchored, TableDescriptor.moveBy,
      AnchoredTable.moveBy, hanchor]
  have htext : (compile blocks (1 + distance)).text = (compile blocks).text := by
    rw [compile_add]
    rfl
  rw [htables, htext, splice_lineEnd, ← List.map_reverse, hdistance]
  refine placed_continued hlast (isLines_append_lineEnd _) (by simp) ?_
  intro table hmem
  obtain ⟨_, hshown, rfl⟩ := List.mem_map.mp (List.mem_reverse.mp hmem)
  obtain ⟨table, htable, rfl⟩ := List.mem_map.mp hshown
  obtain ⟨anchor, hanchor, hlow, _⟩ := compile_tables_anchored htable
  have hplace : (document.seen table).anchored.anchor = anchor := anchored_anchor hanchor
  rw [hplace]
  exact hlow

/-- Behind a line a compilation is published as in an empty document. -/
theorem publishes_behind {source : Text} {typography : Bool} (hid : document.id = id)
    (hspared : document.failAt = none)
    (hfirst : Performs first document.elements [] (before ++ [.paragraph (last ++ ['\n'])]))
    (hparagraphs : ∀ text, .paragraph text ∈ before ++ [.paragraph (last ++ ['\n'])] →
      IsParagraph text)
    (hstart : start = stopOf before + last.length)
    (hplane : ∀ c ∈ (compileMarkdown source 1 typography).text, c.toNat < 0x10000) :
    let result := compileMarkdown source 1 typography
    let shown := result.tables.map document.seen
    Publishes (Publication.apply client id source start first typography) document
      (before ++ continued last (result.elements shown)) (result.looks shown) := by
  unfold Publication.apply compileMarkdown at *
  generalize Block.ofMarkdown (if typography then Typography.filter source else source) =
    blocks at *
  obtain ⟨body, hbody, hnot⟩ := hparagraphs (last ++ ['\n']) (by simp)
  obtain ⟨rfl, _⟩ := List.append_inj' hbody rfl
  -- The text is compiled for a place further on than in an empty document.
  generalize hdistance : stopOf before + last.length - stopOf [] = distance
  obtain rfl : start = 1 + distance := by
    rw [stopOf_eq []] at hdistance
    simp only [elementsSize_nil] at hdistance
    omega
  have hmoved := compile_add blocks 1 distance
  have htext : (compile blocks (1 + distance)).text = (compile blocks).text := by
    rw [hmoved]
    rfl
  have hpublished := @publishes_applyCompilation document id before [] (last ++ ['\n']) last.length
    blocks (1 + distance) first hid hspared hfirst hparagraphs hstart (by simp) (htext ▸ hplane)
  simp only [placed_compile hnot hdistance.symm document] at hpublished
  intro result shown
  have hlooks : (compile blocks (1 + distance)).looks
      ((compile blocks (1 + distance)).tables.map document.seen) = result.looks shown := by
    rw [hmoved, ← result.looks_moveBy shown distance]
    have hshown : ((result.moveBy distance).tables.map document.seen) =
        shown.map (·.moveBy distance) := by
      rw [List.map_map]
      exact List.map_map
    rw [hshown]
  rw [← hlooks]
  exact hpublished

end Behind

/-! ## The operations -/

section Operations

variable {document : MemoryDocument} {id : Option String} {name : String} {before : List Element}
  {last source : Text} {typography : Bool}

/-- A line end inserted at the end of a document is a paragraph of its own. -/
theorem performs_lineEnd (helements : document.elements = before ++ [.paragraph (last ++ ['\n'])])
    (hparagraphs : ∀ text, .paragraph text ∈ document.elements → IsParagraph text) :
    Performs [.insertText (stopOf before + last.length) ['\n']] document.elements []
      (document.elements ++ [.paragraph ['\n']]) := by
  have hline : IsParagraph (last ++ ['\n']) := hparagraphs _ (by rw [helements]; simp)
  have hoffset : last.length < (last ++ ['\n']).length := by simp
  rw [helements] at *
  have hinsert := insertText_paragraph hparagraphs rfl hoffset (List.cons_ne_nil '\n' [])
    (isLines_splice hline hoffset _)
  have hlines : paragraphs (splice last.length ['\n'] (last ++ ['\n'])) =
      [.paragraph (last ++ ['\n']), .paragraph ['\n']] := by
    rw [splice_lineEnd, ← List.append_assoc, paragraphs_append hline.isLines, hline.paragraphs_eq]
    rfl
  rw [hlines] at hinsert
  rw [List.append_assoc]
  exact performs_insertText hinsert

variable (hid : validateDocumentId id = .ok name) (hname : document.id = some name)
  (hspared : document.failAt = none)
  (helements : document.elements = before ++ [.paragraph (last ++ ['\n'])])
  (hparagraphs : ∀ text, .paragraph text ∈ document.elements → IsParagraph text)
  (hplane : ∀ c ∈ (compileMarkdown source 1 typography).text, c.toNat < 0x10000)
include hid hname hspared helements hparagraphs hplane

/-- Markdown that is inserted at the end goes on in the last line. -/
theorem publishes_insertMarkdown :
    let result := compileMarkdown source 1 typography
    let shown := result.tables.map document.seen
    Publishes (Publication.insertMarkdown client id (some source) typography) document
      (before ++ continued last (result.elements shown)) (result.looks shown) := by
  rw [helements] at hparagraphs
  have hpublished := @publishes_behind document (some name) before last _ [] source typography hname
    hspared (helements ▸ performs_nil _) hparagraphs (lastLineEnd_snapshot helements) hplane
  exact (yields_ofExcept hid).publishes_bind ((yields_ofExcept rfl).publishes_bind
    ((yields_query hname).publishes_bind (hpublished.bind_pure _)))

/-- Markdown in place of all content finds an empty document. -/
theorem publishes_replaceContent :
    let result := compileMarkdown source 1 typography
    let shown := result.tables.map document.seen
    Publishes (Publication.replaceContent client id (some source) typography) document
      (result.elements shown) (result.looks shown) := by
  have hpublished := @publishes_behind document (some name) [] [] _ _ source typography hname
    hspared (performs_clearing helements hparagraphs) (fun _ hmem => blank_isParagraph hmem) rfl
    hplane
  simp only [continued_nil, List.nil_append] at hpublished
  exact (yields_ofExcept hid).publishes_bind ((yields_ofExcept rfl).publishes_bind
    ((yields_query hname).publishes_bind (hpublished.bind_pure _)))

/-- Markdown that is appended goes behind the line end that has been put there for it. -/
theorem publishes_appendMarkdown :
    let result := compileMarkdown source 1 typography
    let shown := result.tables.map document.seen
    Publishes (Publication.appendMarkdown client id (some source) typography) document
      (document.elements ++ result.elements shown) (result.looks shown) := by
  have hall : ∀ text, .paragraph text ∈ document.elements ++ [.paragraph ([] ++ ['\n'])] →
      IsParagraph text := by
    intro text hmem
    exact (List.mem_append.mp hmem).elim (hparagraphs text) blank_isParagraph
  -- The new line end begins one position behind the last one.
  have hstart : stopOf before + last.length + 1 =
      stopOf document.elements + ([] : Text).length := by
    simp only [helements, stopOf_eq, elementsSize_append, elementsSize_cons, size_paragraph,
      elementsSize_nil, List.length_append, List.length_singleton, List.length_nil]
    omega
  have hpublished := @publishes_behind document (some name) document.elements [] _ _ source
    typography hname hspared (performs_lineEnd helements hparagraphs) hall hstart hplane
  simp only [continued_nil, ← lastLineEnd_snapshot helements] at hpublished
  exact (yields_ofExcept hid).publishes_bind ((yields_ofExcept rfl).publishes_bind
    ((yields_query hname).publishes_bind (hpublished.bind_pure _)))

end Operations

/-- Markdown leaves in a document what it leaves in an empty one: in place of all that was
there, as paragraphs and tables of their own after it, or with its first paragraph behind the
last line of the document. In each case the styles that are noted are those of the empty
document, in the same order and for the same texts. -/
theorem publishes_as_in_empty {document empty : MemoryDocument} {id emptyId : Option String}
    {name emptyName : String} {before : List Element} {last : Text}
    (hid : validateDocumentId id = .ok name) (hname : document.id = some name)
    (hemptyId : validateDocumentId emptyId = .ok emptyName) (hemptyName : empty.id = some emptyName)
    (hspared : document.failAt = none) (hemptySpared : empty.failAt = none)
    (hrows : empty.visibleRows = document.visibleRows)
    (hcolumns : empty.visibleColumns = document.visibleColumns) (hblank : empty.elements = blank)
    (helements : document.elements = before ++ [.paragraph (last ++ ['\n'])])
    (hparagraphs : ∀ text, .paragraph text ∈ document.elements → IsParagraph text)
    {source : Text} {typography : Bool}
    (hplane : ∀ c ∈ (compileMarkdown source 1 typography).text, c.toNat < 0x10000) :
    ∃ elements looks,
      Publishes (Publication.insertMarkdown client emptyId (some source) typography) empty
        elements looks ∧
      Publishes (Publication.replaceContent client id (some source) typography) document
        elements looks ∧
      Publishes (Publication.appendMarkdown client id (some source) typography) document
        (document.elements ++ elements) looks ∧
      ∃ text rest, elements = .paragraph text :: rest ∧
        Publishes (Publication.insertMarkdown client id (some source) typography) document
          (before ++ .paragraph (last ++ text) :: rest) looks := by
  have hseen : empty.seen = document.seen := by
    funext table
    rw [MemoryDocument.seen, MemoryDocument.seen, hrows, hcolumns]
  have hinserted := @publishes_insertMarkdown empty emptyId emptyName [] [] source typography
    hemptyId hemptyName hemptySpared hblank (fun _ hmem => blank_isParagraph (hblank ▸ hmem)) hplane
  have hextended := publishes_insertMarkdown hid hname hspared helements hparagraphs hplane
  simp only [hseen, continued_nil, List.nil_append] at hinserted
  obtain ⟨text, rest, hfirst⟩ : ∃ text rest, (compileMarkdown source 1 typography).elements
      ((compileMarkdown source 1 typography).tables.map document.seen) = .paragraph text :: rest :=
    exists_paragraph_placed (isLines_append_lineEnd _) (by simp)
  simp only [hfirst, continued] at hextended
  exact ⟨_, _, hinserted,
    publishes_replaceContent hid hname hspared helements hparagraphs hplane,
    publishes_appendMarkdown hid hname hspared helements hparagraphs hplane,
    text, rest, hfirst, hextended⟩

/-- A line, and a table with nothing but a header. -/
def titledTable : Text := ['T', '\n', '\n', '|', 'H', '|', '\n', '|', '-', '|']

theorem tokens_titledTable : Markdown.tokens titledTable =
    [{ name := "paragraph_open", tag := ['p'], nesting := 1 },
      { name := "inline", content := ['T'], children := [{ name := "text", content := ['T'] }] },
      { name := "paragraph_close", tag := ['p'], nesting := -1 },
      { name := "table_open", tag := ['t', 'a', 'b', 'l', 'e'], nesting := 1 },
      { name := "thead_open", tag := ['t', 'h', 'e', 'a', 'd'], nesting := 1 },
      { name := "tr_open", tag := ['t', 'r'], nesting := 1 },
      { name := "th_open", tag := ['t', 'h'], nesting := 1 },
      { name := "inline", content := ['H'], children := [{ name := "text", content := ['H'] }] },
      { name := "th_close", tag := ['t', 'h'], nesting := -1 },
      { name := "tr_close", tag := ['t', 'r'], nesting := -1 },
      { name := "thead_close", tag := ['t', 'h', 'e', 'a', 'd'], nesting := -1 },
      { name := "table_close", tag := ['t', 'a', 'b', 'l', 'e'], nesting := -1 }] := by
  with_unfolding_all rfl

/-- The blocks of the line and of the table. -/
theorem ofMarkdown_titledTable : Block.ofMarkdown titledTable =
    [{ kind := .paragraph, content := [{ kind := .text, text := ['T'] }] },
      { kind := .table, header := [[{ kind := .text, text := ['H'] }]] }] := by
  have hline : ReadsAs { name := "paragraph_open", tag := ['p'], nesting := 1 }
      [{ name := "inline", content := ['T'], children := [{ name := "text", content := ['T'] }] },
        { name := "paragraph_close", tag := ['p'], nesting := -1 }]
      { kind := .paragraph, content := [{ kind := .text, text := ['T'] }] } := by
    intro position rest
    have hrole : Token.role { name := "paragraph_open", tag := ['p'], nesting := 1 } = .paragraph :=
      rfl
    rw [foldBlock, hrole]
    exact ⟨rfl, rfl⟩
  have htable : ReadsAs { name := "table_open", tag := ['t', 'a', 'b', 'l', 'e'], nesting := 1 }
      [{ name := "thead_open", tag := ['t', 'h', 'e', 'a', 'd'], nesting := 1 },
        { name := "tr_open", tag := ['t', 'r'], nesting := 1 },
        { name := "th_open", tag := ['t', 'h'], nesting := 1 },
        { name := "inline", content := ['H'], children := [{ name := "text", content := ['H'] }] },
        { name := "th_close", tag := ['t', 'h'], nesting := -1 },
        { name := "tr_close", tag := ['t', 'r'], nesting := -1 },
        { name := "thead_close", tag := ['t', 'h', 'e', 'a', 'd'], nesting := -1 },
        { name := "table_close", tag := ['t', 'a', 'b', 'l', 'e'], nesting := -1 }]
      { kind := .table, header := [[{ kind := .text, text := ['H'] }]] } := by
    intro position rest
    have hrole : Token.role
        { name := "table_open", tag := ['t', 'a', 'b', 'l', 'e'], nesting := 1 } = .table := rfl
    rw [foldBlock, hrole]
    exact ⟨rfl, rfl⟩
  have hboth := (hline.supplies (Token.neverCloses_open "paragraph")).append
    (htable.supplies (Token.neverCloses_open "table"))
  obtain ⟨hvalue, -⟩ := hboth none (fun _ hnone => absurd hnone (by simp)) 0 []
  rw [Block.ofMarkdown, tokens_titledTable]
  rw [List.append_nil, foldBlocks] at hvalue
  exact hvalue

/-- A document with a table and a line takes the same line and table as an empty one. -/
theorem publishes_titledTable :
    ∃ elements looks,
      Publishes (Publication.insertMarkdown client (some "e") (some titledTable) false)
        { id := some "e", title := none, elements := blank } elements looks ∧
      Publishes (Publication.replaceContent client (some " d") (some titledTable) false)
        tabledDocument elements looks ∧
      Publishes (Publication.appendMarkdown client (some " d") (some titledTable) false)
        tabledDocument (tabledDocument.elements ++ elements) looks ∧
      ∃ text rest, elements = .paragraph text :: rest ∧
        Publishes (Publication.insertMarkdown client (some " d") (some titledTable) false)
          tabledDocument (.table [[['p', 'q']]] :: .paragraph (['a', 'b'] ++ text) :: rest)
          looks := by
  have htext : (compileMarkdown titledTable 1 false).text = ['T', '\n', '\n'] := by
    rw [compileMarkdown, if_neg Bool.false_ne_true, ofMarkdown_titledTable]
    decide +kernel
  have hplane : ∀ c ∈ (compileMarkdown titledTable 1 false).text, c.toNat < 0x10000 := by
    simp [htext]
  have hid : validateDocumentId (some " d") = .ok "d" := by decide +kernel
  have hemptyId : validateDocumentId (some "e") = .ok "e" := by decide +kernel
  exact @publishes_as_in_empty tabledDocument { id := some "e", title := none, elements := blank }
    (some " d") (some "e") "d" "e" [.table [[['p', 'q']]]] ['a', 'b'] hid rfl hemptyId rfl rfl rfl
    rfl rfl rfl rfl (fun _ => tabledDocument_isParagraph) titledTable false hplane

end DocPress
