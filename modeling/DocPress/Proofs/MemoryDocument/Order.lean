import DocPress.Proofs.Client.Replay
import DocPress.Proofs.MemoryDocument.Drafting
import DocPress.Proofs.MemoryDocument.Stages

/-!
# Documents in order

A document in memory is in order if each of its paragraphs is one line with its line end,
and its last element is a paragraph. Every edit that is accepted keeps a document in order,
wherever it is made: text that was inserted or left over is split into lines again, a table
breaks a line in two, and the last line end can neither be deleted nor lose its line.
Therefore no batch, whether it is accepted or not, puts a document out of order.
-/

namespace DocPress.MemoryDocument

/-- Whether the last element is a paragraph. -/
def EndsWithParagraph (elements : List Element) : Prop :=
  ∃ text, elements.getLast? = some (.paragraph text)

/-- Whether every paragraph is one line with its line end, and the last element is a
paragraph. -/
structure IsOrderly (elements : List Element) : Prop where
  isParagraph : ∀ text, .paragraph text ∈ elements → IsParagraph text
  endsWithParagraph : EndsWithParagraph elements

theorem EndsWithParagraph.ne_nil {elements : List Element} (hends : EndsWithParagraph elements) :
    elements ≠ [] := by
  rintro rfl
  obtain ⟨text, hlast⟩ := hends
  exact absurd hlast (by simp)

theorem endsWithParagraph_append {elements : List Element} (hsome : elements ≠ [])
    (before : List Element) :
    EndsWithParagraph (before ++ elements) ↔ EndsWithParagraph elements := by
  rw [EndsWithParagraph, List.getLast?_append,
    Option.or_of_isSome (List.getLast?_isSome.mpr hsome), EndsWithParagraph]

/-- A document in order ends with a line and its line end. -/
theorem IsOrderly.exists_last {elements : List Element} (horderly : IsOrderly elements) :
    ∃ before line, elements = before ++ [.paragraph (line ++ ['\n'])] := by
  obtain ⟨text, hlast⟩ := horderly.endsWithParagraph
  obtain ⟨before, rfl⟩ := List.getLast?_eq_some_iff.mp hlast
  obtain ⟨line, rfl, _⟩ := horderly.isParagraph text (by simp)
  exact ⟨before, line, rfl⟩

theorem isOrderly_blank : IsOrderly blank where
  isParagraph := fun _ => blank_isParagraph
  endsWithParagraph := ⟨['\n'], rfl⟩

/-- A document that begins with single paragraphs is in order. -/
theorem isOrderly_ofParagraphs {texts : List Text} (htexts : ∀ text ∈ texts, IsParagraph text) :
    IsOrderly (ofParagraphs texts) := by
  rw [ofParagraphs]
  split
  next => exact isOrderly_blank
  next hsome =>
    refine ⟨fun text hmem => ?_, texts.getLast (by simpa using hsome), ?_⟩
    · obtain ⟨other, hother, heq⟩ := List.mem_map.mp hmem
      exact Element.paragraph.inj heq ▸ htexts other hother
    · rw [List.getLast?_map, List.getLast?_eq_some_getLast (by simpa using hsome)]
      rfl

/-- Elements in order stay in order when one of them makes room for others, as long as the
last one makes room for elements that end with a paragraph. -/
theorem IsOrderly.replace {before after middle : List Element} {element : Element}
    (horderly : IsOrderly (before ++ element :: after))
    (hmiddle : ∀ text, .paragraph text ∈ middle → IsParagraph text)
    (hlast : after = [] → EndsWithParagraph middle) : IsOrderly (before ++ (middle ++ after)) where
  isParagraph := by
    intro text hmem
    rcases List.mem_append.mp hmem with hmem | hmem
    · exact horderly.isParagraph text (List.mem_append_left _ hmem)
    rcases List.mem_append.mp hmem with hmem | hmem
    · exact hmiddle text hmem
    · exact horderly.isParagraph text
        (List.mem_append_right _ (List.mem_cons_of_mem _ hmem))
  endsWithParagraph := by
    by_cases hafter : after = []
    · have hends := hlast hafter
      rw [hafter, List.append_nil]
      exact (endsWithParagraph_append hends.ne_nil before).mpr hends
    · have hends := (endsWithParagraph_append (by simp) before).mp horderly.endsWithParagraph
      have hafterEnds := (endsWithParagraph_append hafter [element]).mp hends
      rw [← List.append_assoc]
      exact (endsWithParagraph_append hafter _).mpr hafterEnds

/-! ## Insertions -/

section Insertions

variable {index position : Int} {elements edited : List Element}

/-- What is replaced is a paragraph that holds the index. -/
theorem exists_of_replaceParagraph? {replacement : Text → Nat → List Element}
    (hreplace : replaceParagraph? index replacement position elements = some edited) :
    ∃ before line after offset, elements = before ++ .paragraph line :: after ∧
      index = position + elementsSize before + (offset : Nat) ∧ offset < line.length ∧
      edited = before ++ (replacement line offset ++ after) := by
  induction elements generalizing position edited with
  | nil => exact absurd hreplace (by simp [replaceParagraph?])
  | cons element rest ih =>
      cases element with
      | paragraph text =>
          rw [replaceParagraph?] at hreplace
          split at hreplace
          next hhere =>
            refine ⟨[], text, rest, (index - position).toNat, rfl, ?_, by omega,
              (Option.some.inj hreplace).symm⟩
            rw [elementsSize_nil]
            omega
          next =>
            obtain ⟨others, hothers, rfl⟩ := Option.map_eq_some_iff.mp hreplace
            obtain ⟨before, line, after, offset, rfl, hindex, hoffset, rfl⟩ := ih hothers
            refine ⟨.paragraph text :: before, line, after, offset, rfl, ?_, hoffset, rfl⟩
            rw [elementsSize_cons, size_paragraph]
            omega
      | table cells =>
          obtain ⟨others, hothers, rfl⟩ := Option.map_eq_some_iff.mp hreplace
          obtain ⟨before, line, after, offset, rfl, hindex, hoffset, rfl⟩ := ih hothers
          refine ⟨.table cells :: before, line, after, offset, rfl, ?_, hoffset, rfl⟩
          rw [elementsSize_cons, size_table]
          omega

/-- Text that is inserted into a table changes the cells of that table. -/
theorem exists_of_insertInTable? {inserted : Text}
    (hinsert : insertInTable? index inserted position elements = some edited) :
    ∃ before cells after filled, elements = before ++ .table cells :: after ∧
      edited = before ++ .table filled :: after := by
  induction elements generalizing position edited with
  | nil => exact absurd hinsert (by simp [insertInTable?])
  | cons element rest ih =>
      cases element with
      | paragraph text =>
          obtain ⟨others, hothers, rfl⟩ := Option.map_eq_some_iff.mp hinsert
          obtain ⟨before, cells, after, filled, rfl, rfl⟩ := ih hothers
          exact ⟨.paragraph text :: before, cells, after, filled, rfl, rfl⟩
      | table cells =>
          rw [insertInTable?] at hinsert
          split at hinsert
          next filled _ => exact ⟨[], cells, rest, filled, rfl, (Option.some.inj hinsert).symm⟩
          next =>
            obtain ⟨others, hothers, rfl⟩ := Option.map_eq_some_iff.mp hinsert
            obtain ⟨before, inner, after, filled, rfl, rfl⟩ := ih hothers
            exact ⟨.table cells :: before, inner, after, filled, rfl, rfl⟩

theorem isParagraph_of_mem_paragraphs {text line : Text}
    (hmem : .paragraph line ∈ paragraphs text) : IsParagraph line := by
  obtain ⟨body, hbody, heq⟩ := List.mem_map.mp hmem
  exact ⟨body, (Element.paragraph.inj heq).symm,
    lineEnd_notMem_of_mem_textLines (List.dropLast_subset _ hbody)⟩

/-- Cutting a text that is not empty gives a last paragraph. -/
theorem endsWithParagraph_paragraphs {text : Text} (hlines : IsLines text) (hsome : text ≠ []) :
    EndsWithParagraph (paragraphs text) := by
  induction hlines with
  | nil => exact absurd rfl hsome
  | @cons line rest hline _ ih =>
      rw [paragraphs_line_append hline]
      by_cases hrest : rest = []
      · rw [hrest, paragraphs_nil]
        exact ⟨line ++ ['\n'], rfl⟩
      · obtain ⟨last, hlast⟩ := ih hrest
        exact ⟨last, by rw [List.getLast?_cons, hlast]; rfl⟩

/-- Text that is inserted is cut into lines with the paragraph it goes into, or goes into a cell.
-/
theorem IsOrderly.insertText {inserted : Text} (horderly : IsOrderly elements)
    (hinsert : insertText index inserted elements = .ok edited) : IsOrderly edited := by
  have hsome : inserted ≠ [] := by
    rintro rfl
    exact absurd hinsert (by simp [MemoryDocument.insertText])
  cases hreplace : replaceParagraph? index
      (fun text offset => [.paragraph (splice offset inserted text)]) bodyStart elements with
  | some joined =>
      obtain ⟨before, line, after, offset, rfl, hindex, hoffset, -⟩ :=
        exists_of_replaceParagraph? hreplace
      have hlines := isLines_splice (horderly.isParagraph line (by simp)) hoffset inserted
      have hsplit := insertText_paragraph horderly.isParagraph hindex hoffset hsome hlines
      obtain rfl := Except.ok.inj (hinsert.symm.trans hsplit)
      refine horderly.replace (fun _ => isParagraph_of_mem_paragraphs) fun _ =>
        endsWithParagraph_paragraphs hlines ?_
      exact List.ne_nil_of_length_pos (by rw [length_splice hoffset]; omega)
  -- No paragraph holds the index, so the text goes into a table or is refused.
  | none =>
      rw [MemoryDocument.insertText, if_neg (by simpa using hsome)] at hinsert
      simp only [hreplace] at hinsert
      split at hinsert
      next filled hfilled =>
        obtain rfl := Except.ok.inj hinsert
        obtain ⟨before, cells, after, others, rfl, rfl⟩ := exists_of_insertInTable? hfilled
        refine @IsOrderly.replace before after [.table others] _ horderly (by simp) ?_
        rintro rfl
        obtain ⟨text, hlast⟩ := horderly.endsWithParagraph
        exact absurd hlast (by simp)
      next => exact absurd hinsert (by simp)

/-- A table breaks a line in two, and both parts get a line end. -/
theorem IsOrderly.insertTable {rows columns : Int} (horderly : IsOrderly elements)
    (hinsert : insertTable index rows columns elements = .ok edited) : IsOrderly edited := by
  unfold MemoryDocument.insertTable at hinsert
  dsimp only at hinsert
  split at hinsert
  next broken hbroken =>
    obtain rfl := Except.ok.inj hinsert
    obtain ⟨before, line, after, offset, rfl, -, hoffset, rfl⟩ :=
      exists_of_replaceParagraph? hbroken
    have hline := horderly.isParagraph line (by simp)
    refine horderly.replace (fun text hmem => ?_) fun _ => ⟨line.drop offset, rfl⟩
    simp only [List.mem_cons, Element.paragraph.injEq, reduceCtorEq, false_or, List.not_mem_nil,
      or_false] at hmem
    rcases hmem with rfl | rfl
    · exact hline.take hoffset
    · exact hline.drop hoffset
  next => exact absurd hinsert (by simp)

end Insertions

/-! ## Deletions -/

section Deletions

variable {elements edited : List Element}

/-- A text that can be cut into paragraphs consists of lines with their line ends. -/
theorem isLines_of_paragraphsOf {text : Text} (hcut : paragraphsOf text = .ok edited) :
    IsLines text := by
  unfold paragraphsOf at hcut
  split at hcut
  next hempty => exact List.isEmpty_iff.mp hempty ▸ .nil
  next hsome =>
    dsimp only at hcut
    split at hcut
    next hlast =>
      by_cases hmem : '\n' ∈ text.reverse
      · -- Nothing stands behind the last line end.
        obtain ⟨behind, front, hsplit, hbehind⟩ := List.eq_append_cons_of_mem hmem
        obtain rfl : text = front.reverse ++ '\n' :: behind.reverse := by
          rw [← text.reverse_reverse, hsplit]
          simp
        have hlines : textLines behind.reverse = [behind.reverse] :=
          textLines_of_notMem (by simpa using hbehind)
        rw [textLines_append_lineEnd, hlines, List.getLastD_concat] at hlast
        rw [hlast]
        exact isLines_append_lineEnd _
      · rw [textLines_of_notMem (by simpa using hmem)] at hlast
        exact absurd hlast (by simpa using hsome)
    next => exact absurd hcut (by simp)

theorem exists_of_bind_ok {ε α β : Type} {first : Except ε α} {rest : α → Except ε β} {result : β}
    (hrun : first >>= rest = .ok result) :
    ∃ value, first = .ok value ∧ rest value = .ok result := by
  cases first with
  | error issue => exact absurd hrun (by simp [bind, Except.bind])
  | ok value => exact ⟨value, rfl, hrun⟩

/-- What was split anew is in order if there was text at the end. -/
theorem splitAnew_isOrderly {pending : Text} (hsplit : splitAnew pending elements = .ok edited)
    {last : Text} (hlast : elements.getLast? = some (.paragraph last)) (hsome : last ≠ []) :
    IsOrderly edited := by
  induction elements generalizing pending edited with
  | nil => exact absurd hlast (by simp)
  | cons element rest ih =>
      cases element with
      | paragraph text =>
          rw [splitAnew] at hsplit
          cases rest with
          | nil =>
              obtain rfl := Element.paragraph.inj (Option.some.inj hlast)
              rw [splitAnew] at hsplit
              have hlines := isLines_of_paragraphsOf hsplit
              obtain rfl := Except.ok.inj (hsplit.symm.trans hlines.paragraphsOf_eq)
              exact ⟨fun _ => isParagraph_of_mem_paragraphs,
                endsWithParagraph_paragraphs hlines (by simp [hsome])⟩
          | cons next others => exact ih hsplit (by simpa using hlast)
      | table cells =>
          obtain ⟨first, hfirst, hsplit⟩ := exists_of_bind_ok hsplit
          obtain ⟨second, hsecond, hsplit⟩ := exists_of_bind_ok hsplit
          obtain rfl := Except.ok.inj hsplit
          have hlines := isLines_of_paragraphsOf hfirst
          obtain rfl := Except.ok.inj (hfirst.symm.trans hlines.paragraphsOf_eq)
          cases rest with
          | nil => exact absurd hlast (by simp)
          | cons next others =>
              obtain ⟨hrest, hends⟩ := ih hsecond (by simpa using hlast)
              refine ⟨fun text hmem => ?_, ?_⟩
              · rcases List.mem_append.mp hmem with hmem | hmem
                · exact isParagraph_of_mem_paragraphs hmem
                · exact hrest text (by simpa using hmem)
              · exact (endsWithParagraph_append (by simp) _).mpr
                  ((endsWithParagraph_append hends.ne_nil [_]).mpr hends)

/-- The last character of a text stays if a range stops before it. -/
theorem charsAt_ne_nil {start stop position : Int} {text : Text} (hsome : text ≠ [])
    (hstop : stop < position + text.length) :
    charsAt (fun position => !isWithin start stop position) position text ≠ [] := by
  obtain rfl | ⟨front, c, rfl⟩ := List.eq_nil_or_concat text
  · exact absurd rfl hsome
  · have hwithin : isWithin start stop (position + front.length) = false := by
      rw [List.length_concat] at hstop
      rw [isWithin, Bool.and_eq_false_iff, decide_eq_false_iff_not, decide_eq_false_iff_not]
      omega
    rw [List.concat_eq_append, charsAt_append, charsAt, hwithin]
    simp

/-- Of the first element a deletion leaves at most a part; the others are treated alike. -/
theorem exists_of_deleteFrom_cons {start stop position : Int} {element : Element}
    {rest : List Element}
    (hdelete : deleteFrom start stop position (element :: rest) = .ok edited) :
    ∃ kept, deleteFrom start stop (position + element.size) rest = .ok kept ∧
      (edited = kept ∨ ∃ part, edited = part :: kept) := by
  cases element with
  | paragraph text =>
      obtain ⟨kept, hkept, hedited⟩ := exists_of_bind_ok hdelete
      refine ⟨kept, hkept, ?_⟩
      obtain rfl := Except.ok.inj hedited
      split
      next => exact .inl rfl
      next => exact .inr ⟨_, rfl⟩
  | table cells =>
      rw [deleteFrom] at hdelete
      split at hdelete
      next => exact ⟨edited, hdelete, .inl rfl⟩
      next =>
        split at hdelete
        next =>
          obtain ⟨kept, hkept, hedited⟩ := exists_of_bind_ok hdelete
          exact ⟨kept, hkept, .inr ⟨_, (Except.ok.inj hedited).symm⟩⟩
        next => exact absurd hdelete (by simp)

/-- A range that stops before the end leaves a part of the last paragraph. -/
theorem deleteFrom_getLast? {start stop position : Int} {last : Text}
    (hdelete : deleteFrom start stop position elements = .ok edited)
    (hlast : elements.getLast? = some (.paragraph last)) (hsome : last ≠ [])
    (hstop : stop < position + elementsSize elements) :
    ∃ remaining, edited.getLast? = some (.paragraph remaining) ∧ remaining ≠ [] := by
  induction elements generalizing position edited with
  | nil => exact absurd hlast (by simp)
  | cons element rest ih =>
      rw [elementsSize_cons] at hstop
      cases rest with
      | nil =>
          obtain rfl := Option.some.inj hlast
          obtain rfl := Except.ok.inj hdelete
          have hremaining := @charsAt_ne_nil start stop position last hsome (by simpa using hstop)
          rw [if_neg (by simpa using hremaining)]
          exact ⟨_, rfl, hremaining⟩
      | cons next others =>
          obtain ⟨kept, hkept, hedited⟩ := exists_of_deleteFrom_cons hdelete
          obtain ⟨remaining, hkeptLast, hremaining⟩ := ih hkept (by simpa using hlast) (by omega)
          refine ⟨remaining, ?_, hremaining⟩
          obtain rfl | ⟨part, rfl⟩ := hedited
          · exact hkeptLast
          · rw [List.getLast?_cons, hkeptLast]
            rfl

/-- A deletion keeps the last line end, and the text before it is split anew. -/
theorem IsOrderly.deleteRange {start stop : Int} (horderly : IsOrderly elements)
    (hdelete : deleteRange start stop elements = .ok edited) : IsOrderly edited := by
  unfold MemoryDocument.deleteRange at hdelete
  split at hdelete
  next hrange =>
    obtain ⟨kept, hkept, hsplit⟩ := exists_of_bind_ok hdelete
    obtain ⟨before, line, helements⟩ := horderly.exists_last
    have hlast : elements.getLast? = some (.paragraph (line ++ ['\n'])) := by simp [helements]
    obtain ⟨remaining, hremaining, hsome⟩ :=
      deleteFrom_getLast? hkept hlast (by simp) hrange.2.2
    exact splitAnew_isOrderly hsplit hremaining hsome
  next => exact absurd hdelete (by simp)

end Deletions

/-! ## Batches -/

section Documents

variable {document edited : MemoryDocument}

theorem IsOrderly.changeElements {change : List Element → Except EditIssue (List Element)}
    (hkeeps : ∀ changed, change document.elements = .ok changed → IsOrderly changed)
    (hchange : document.changeElements change = .ok edited) : IsOrderly edited.elements := by
  obtain ⟨changed, hchanged, hedited⟩ := exists_of_bind_ok hchange
  obtain rfl := Except.ok.inj hedited
  exact hkeeps changed hchanged

/-- An edit that is accepted keeps a document in order. -/
theorem IsOrderly.edit {edit : Edit} (horderly : IsOrderly document.elements)
    (hedit : document.edit edit = .ok edited) : IsOrderly edited.elements := by
  cases edit with
  | insertText index text => exact IsOrderly.changeElements (fun _ => horderly.insertText) hedit
  | insertTable index rows columns =>
      exact IsOrderly.changeElements (fun _ => horderly.insertTable) hedit
  | delete start stop => exact IsOrderly.changeElements (fun _ => horderly.deleteRange) hedit
  | style request start stop style =>
      rw [MemoryDocument.edit, noteStyle] at hedit
      split at hedit
      next =>
        obtain rfl := Except.ok.inj hedit
        exact horderly
      next => exact absurd hedit (by simp)
  | unsupported request => exact absurd hedit (by simp [MemoryDocument.edit])

/-- So does a batch, as far as it is accepted. -/
theorem IsOrderly.applyAll {requests : List Request} (horderly : IsOrderly document.elements)
    (happly : document.applyAll requests = .ok edited) : IsOrderly edited.elements := by
  induction requests generalizing document with
  | nil =>
      obtain rfl := Except.ok.inj happly
      exact horderly
  | cons request rest ih =>
      rw [MemoryDocument.applyAll, List.foldlM_cons] at happly
      obtain ⟨between, hfirst, hrest⟩ := exists_of_bind_ok happly
      exact ih (horderly.edit hfirst) hrest

/-! ## Calls -/

theorem run_checkId_of_ne {id : Option String} (hid : document.id ≠ id) :
    (checkId id).run.run document = (.error (EditIssue.unknownDocument id).failure, document) := by
  rw [checkId, yields_get.run_bind, if_pos hid]
  rfl

/-- A document that is read stays as it is. -/
theorem run_query_cases (document : MemoryDocument) (id : Option String) :
    (document.id = id ∧
      (client.query id).run.run document = (.ok document.snapshot, document)) ∨
      (client.query id).run.run document =
        (.error (EditIssue.unknownDocument id).failure, document) := by
  by_cases hid : document.id = id
  · exact .inl ⟨hid, yields_query hid⟩
  · exact .inr (run_bind_of_failed (run_checkId_of_ne hid) _)

/-- A batch that fails changes neither elements nor styles; one that succeeds was accepted
request by request. -/
theorem run_mutate_cases (document : MemoryDocument) (id : Option String)
    (requests : List Request) :
    (∃ issue after, (client.mutate id requests).run.run document =
        (.error (EditIssue.failure issue), after) ∧ after.stage = document.stage) ∨
      ∃ after, (client.mutate id requests).run.run document =
          (.ok (batchReply id requests), after) ∧
        MemoryDocument.applyAll { document with mutations := document.mutations + 1 } requests =
          .ok after := by
  by_cases hid : document.id = id
  · by_cases hchosen : document.failAt = some ↑(document.mutations + 1)
    · exact .inl ⟨_, _, run_mutate_of_chosen hid hchosen, rfl⟩
    · rw [run_mutate_of_spared hid hchosen]
      cases MemoryDocument.applyAll { document with mutations := document.mutations + 1 }
          requests with
      | error issue => exact .inl ⟨issue, _, rfl, rfl⟩
      | ok edited => exact .inr ⟨edited, rfl, rfl⟩
  · exact .inl ⟨_, _, run_bind_of_failed (run_checkId_of_ne hid) _, rfl⟩

/-- Every call leaves a document that was in order in order. -/
theorem IsOrderly.replay (exchange : Exchange) (horderly : IsOrderly document.elements) :
    IsOrderly (exchange.replay client document).2.elements := by
  cases exchange with
  | query id outcome =>
      rw [Exchange.replay]
      rcases run_query_cases document id with ⟨-, hrun⟩ | hrun
      · rw [hrun]
        exact horderly
      · rw [hrun]
        exact horderly
  | mutate id requests outcome =>
      rw [Exchange.replay]
      rcases run_mutate_cases document id requests with
        ⟨issue, after, hrun, hstage⟩ | ⟨after, hrun, happly⟩
      · have hsame : after.elements = document.elements := congrArg Stage.elements hstage
        rw [hrun]
        change IsOrderly after.elements
        rwa [hsame]
      · rw [hrun]
        exact IsOrderly.applyAll (by exact horderly) happly
  | create title outcome => exact isOrderly_blank

/-- A document in memory refuses calls only with failures of its own. -/
theorem exists_issue_of_replay {exchange : Exchange} {failure : Failure}
    (hfailed : (exchange.replay client document).1.failure? = some failure) :
    ∃ issue : EditIssue, failure = issue.failure := by
  cases exchange with
  | query id outcome =>
      rw [Exchange.replay] at hfailed
      rcases run_query_cases document id with ⟨-, hrun⟩ | hrun
      · rw [hrun] at hfailed
        exact absurd hfailed (by simp [Exchange.failure?, failureOf?])
      · rw [hrun] at hfailed
        exact ⟨_, (Option.some.inj hfailed).symm⟩
  | mutate id requests outcome =>
      rw [Exchange.replay] at hfailed
      rcases run_mutate_cases document id requests with ⟨issue, after, hrun, -⟩ | ⟨after, hrun, -⟩
      · rw [hrun] at hfailed
        exact ⟨issue, (Option.some.inj hfailed).symm⟩
      · rw [hrun] at hfailed
        exact absurd hfailed (by simp [Exchange.failure?, failureOf?])
  | create title outcome =>
      have hnone : (none : Option Failure) = some failure := hfailed
      exact absurd hnone (by simp)

end Documents

end DocPress.MemoryDocument
