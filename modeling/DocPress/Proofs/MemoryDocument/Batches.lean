import DocPress.MemoryDocument.Client
import DocPress.Proofs.Client.Runs
import DocPress.Proofs.MemoryDocument.Positions

/-!
# Batches on a document in memory

What a batch does depends on the elements of the document alone: it turns them into
others and notes styles. A client of a document whose batches are let through does what
the batch says, and leaves a document of the same kind.
-/

namespace DocPress.MemoryDocument

variable {elements edited : List Element} {records : List StyleRecord}

/-- Whether a batch turns elements into others and notes styles, whatever else the
document holds. -/
def Performs (requests : List Request) (elements : List Element) (records : List StyleRecord)
    (edited : List Element) : Prop :=
  ∀ document : MemoryDocument, document.elements = elements →
    document.applyAll requests =
      .ok { document with elements := edited, styles := document.styles ++ records }

theorem performs_nil (elements : List Element) : Performs [] elements [] elements := by
  rintro document rfl
  rw [List.append_nil]
  rfl

/-- A batch of no requests changes nothing. -/
theorem Performs.of_nil (hperforms : Performs [] elements records edited) :
    elements = edited ∧ records = [] := by
  have hrun := Except.ok.inj (hperforms { id := none, title := none, elements } rfl)
  exact ⟨congrArg MemoryDocument.elements hrun, (congrArg MemoryDocument.styles hrun).symm⟩

/-- A batch goes on where the batch before it stopped. -/
theorem Performs.append {first second : List Request} {others : List StyleRecord}
    {final : List Element} (hfirst : Performs first elements records edited)
    (hsecond : Performs second edited others final) :
    Performs (first ++ second) elements (records ++ others) final := by
  intro document helements
  have hrun := hfirst document helements
  have hnext :=
    hsecond { document with elements := edited, styles := document.styles ++ records } rfl
  rw [applyAll] at *
  rw [List.foldlM_append, hrun]
  exact hnext.trans (by rw [List.append_assoc])

/-- A request that only changes elements notes no style. -/
theorem performs_change {request : Request}
    {change : List Element → Except EditIssue (List Element)}
    (hrequest : ∀ document : MemoryDocument,
      document.apply request = document.changeElements change)
    (hchange : change elements = .ok edited) : Performs [request] elements [] edited := by
  rintro document rfl
  rw [applyAll, List.foldlM_cons, hrequest, changeElements, hchange, List.append_nil]
  rfl

theorem performs_insertText {index : Int} {text : Text}
    (hinsert : insertText index text elements = .ok edited) :
    Performs [.insertText index text] elements [] edited :=
  performs_change (fun _ => rfl) hinsert

theorem performs_insertTable {index rows columns : Int}
    (hinsert : insertTable index rows columns elements = .ok edited) :
    Performs [.insertTable index rows columns] elements [] edited :=
  performs_change (fun _ => rfl) hinsert

/-- A style changes no element; the text noted is that of the range. -/
theorem performs_style {request : Request} {name : String} {start stop : Int} {style : Json}
    (hrequest : request.edit = .style name start stop style) (hstart : 1 ≤ start)
    (hlt : start < stop) (hstop : stop ≤ stopOf elements) :
    Performs [request] elements
      [{ request := name, start, stop, text := textWithin start stop bodyStart elements, style }]
      elements := by
  rintro document rfl
  simp [applyAll, apply, hrequest, edit, noteStyle, hstart, hlt, MemoryDocument.stop, hstop]

/-! ## The client -/

/-- A document that answers to an identifier, lets every batch through and shows all
cells of its tables. -/
structure Reliable (document : MemoryDocument) (id : Option String) : Prop where
  id_eq : document.id = id
  failAt_eq : document.failAt = none
  visibleRows_eq : document.visibleRows = none
  visibleColumns_eq : document.visibleColumns = none

variable {document : MemoryDocument} {id : Option String}

theorem yields_checkId (hid : document.id = id) : Yields (checkId id) document () document := by
  refine yields_get.bind ?_
  rw [if_neg (by simpa using hid)]
  exact yields_pure ()

/-- A document that is asked for is shown as it is and stays as it is. -/
theorem yields_query (hid : document.id = id) :
    Yields (client.query id) document document.snapshot document :=
  (yields_checkId hid).bind (yields_get.bind (yields_pure _))

/-- A batch that was not chosen to fail is applied, and counted even when it is refused. -/
theorem run_mutate_of_spared {requests : List Request} (hid : document.id = id)
    (hspared : document.failAt ≠ some ↑(document.mutations + 1)) :
    (client.mutate id requests).run.run document =
      match MemoryDocument.applyAll { document with mutations := document.mutations + 1 }
        requests with
      | .ok edited => (.ok (batchReply id requests), edited)
      | .error issue =>
          (.error issue.failure, { document with mutations := document.mutations + 1 }) := by
  change (mutate id requests).run.run document = _
  rw [mutate, (yields_checkId hid).run_bind, (yields_modify _).run_bind, yields_get.run_bind,
    if_neg (by exact hspared)]
  cases MemoryDocument.applyAll { document with mutations := document.mutations + 1 } requests with
  | ok edited => rfl
  | error issue => rfl

/-- A batch that was not chosen to fail does what it says. -/
theorem yields_mutate_of_performs {requests : List Request} (hid : document.id = id)
    (hspared : document.failAt ≠ some ↑(document.mutations + 1))
    (hperforms : Performs requests document.elements records edited) :
    Yields (client.mutate id requests) document (batchReply id requests)
      { document with
        elements := edited
        styles := document.styles ++ records
        mutations := document.mutations + 1 } := by
  have hcounted := hperforms { document with mutations := document.mutations + 1 } rfl
  rw [Yields, run_mutate_of_spared hid hspared, hcounted]

/-- A batch that was chosen to fail is counted and does nothing else. -/
theorem run_mutate_of_chosen {requests : List Request} (hid : document.id = id)
    (hchosen : document.failAt = some ↑(document.mutations + 1)) :
    (client.mutate id requests).run.run document =
      (.error EditIssue.simulated.failure,
        { document with mutations := document.mutations + 1 }) := by
  change (mutate id requests).run.run document = _
  rw [mutate, (yields_checkId hid).run_bind, (yields_modify _).run_bind, yields_get.run_bind,
    if_pos (by exact hchosen)]
  rfl

/-- A reliable document takes a batch that can be performed, and stays reliable. -/
theorem Reliable.exists_yields_mutate {requests : List Request} (hreliable : document.Reliable id)
    (hperforms : Performs requests document.elements records edited) :
    ∃ reply after, Yields (client.mutate id requests) document reply after ∧ after.Reliable id ∧
      after.elements = edited ∧ after.styles = document.styles ++ records ∧
      after.mutations = document.mutations + 1 := by
  have hspared : document.failAt ≠ some ↑(document.mutations + 1) := by
    simp [hreliable.failAt_eq]
  exact ⟨_, _, yields_mutate_of_performs hreliable.id_eq hspared hperforms,
    ⟨hreliable.id_eq, hreliable.failAt_eq, hreliable.visibleRows_eq,
      hreliable.visibleColumns_eq⟩, rfl, rfl, rfl⟩

end DocPress.MemoryDocument
