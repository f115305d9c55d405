import DocPress.Proofs.Tables.Descriptors

/-!
# Insertions that are broken off

Any batch may fail while tables are inserted. The tables are inserted from the last one to
the first, so the ones that are complete then are those with the highest anchors. One table
is left in between, and those with lower anchors have not been touched: up to the anchor of
the table that failed the document is the one that it was.
-/

namespace DocPress

open MemoryDocument Tracked TableDescriptor

/-- A table without its texts. -/
def AnchoredTable.emptied (table : AnchoredTable) : AnchoredTable :=
  { table with table := { table.table with
      cells := emptyCells table.table.rows table.table.columns } }

/-- What a failing batch may leave of a table: nothing, the table without its texts, or the
table with its texts. -/
def AnchoredTable.Leaves (table : AnchoredTable) (shown : List AnchoredTable) : Prop :=
  shown = [] ∨ shown = [table.emptied] ∨ shown = [table]

namespace AnchoredTable.Leaves

variable {table : AnchoredTable} {shown : List AnchoredTable} (hleaves : table.Leaves shown)
include hleaves

theorem anchor_eq {other : AnchoredTable} (hmem : other ∈ shown) : other.anchor = table.anchor := by
  rcases hleaves with rfl | rfl | rfl
  · exact absurd hmem List.not_mem_nil
  · rw [List.mem_singleton.mp hmem, emptied]
  · rw [List.mem_singleton.mp hmem]

theorem pairwise (relation : AnchoredTable → AnchoredTable → Prop) : shown.Pairwise relation := by
  rcases hleaves with rfl | rfl | rfl
  · exact List.Pairwise.nil
  · exact List.pairwise_singleton _ _
  · exact List.pairwise_singleton _ _

/-- What a table leaves is nothing, the empty grid, or the grid with its texts. -/
theorem cells_mem : shown.reverse.map (fun other => other.table.cells) ∈
    [[], [emptyCells table.table.rows table.table.columns], [table.table.cells]] := by
  rcases hleaves with rfl | rfl | rfl
  · exact List.mem_cons_self
  · exact List.mem_cons_of_mem _ List.mem_cons_self
  · exact List.mem_cons_of_mem _ (List.mem_cons_of_mem _ List.mem_cons_self)

end AnchoredTable.Leaves

section Insertion

variable {id : Option String} {tracked : Tracked MemoryDocument} {before after : List Element}
  {text : Text} {table : AnchoredTable} {tables : List AnchoredTable} {index : Nat}

/-- Before the last one of the stages of a table, no style was noted. -/
theorem getLastD_take_stages (around : List (List Text) → List Element) (stage : Stage)
    (records : List StyleRecord) {table : TableDescriptor}
    (hindex : index < (table.stages around stage.styles records).length) :
    let reached := ((table.stages around stage.styles records).take index).getLastD stage
    reached = stage ∨
      reached = ⟨around (emptyCells table.rows table.columns), stage.styles⟩ ∨
      reached = ⟨around table.cells, stage.styles⟩ := by
  unfold stages at *
  rcases index with _ | _ | _ | index
  · exact .inl rfl
  · exact .inr (.inl rfl)
  · by_cases hnone : filled table.cells = []
    · simp only [hnone, if_true] at hindex
      split at hindex <;> simp at hindex
    · simp [hnone]
  · split at hindex <;> split at hindex <;>
      simp only [List.length_cons, List.length_append, List.length_nil] at hindex <;> omega

/-- What a batch that was chosen to fail leaves of the insertion of one table. -/
theorem exists_run_insertTable_of_chosen {offset : Nat} (hid : tracked.state.id = id)
    (hgrid : table.table.IsGrid) (hlines : IsLines text)
    (helements : tracked.state.elements = before ++ paragraphs text ++ after)
    (hanchor : table.anchor = stopOf before + offset) (hoffset : offset < text.length)
    (hchosen : tracked.state.chosen index)
    (hindex : index < (tracked.state.seen table.table).batches) :
    ∃ shown, (tracked.state.seenAt table).Leaves shown ∧
      (Tracked.insertTable client id table).run.run tracked =
        (.error EditIssue.simulated.failure,
          tracked.reach (index + 1) ⟨placed before text after shown, tracked.state.styles⟩) := by
  obtain ⟨records, hbold, hadvances⟩ :=
    exists_advances_insertTable hid hgrid hlines helements hanchor hoffset
  rw [← length_stages (withTable before text after offset) tracked.state.styles hbold] at hindex
  have hplaced (shown : TableDescriptor) : placed before text after [⟨table.anchor, shown⟩] =
      withTable before text after offset shown.cells := by
    have hplace : (table.anchor - stopOf before).toNat = offset := by omega
    simp only [placed, withTable, hplace, List.append_assoc]
  have hends {stage : Stage}
      (hstage : (((tracked.state.seen table.table).stages (withTable before text after offset)
        tracked.state.styles records).take index).getLastD tracked.state.stage = stage) :
      (Tracked.insertTable client id table).run.run tracked =
        (.error EditIssue.simulated.failure, tracked.reach (index + 1) stage) :=
    hstage ▸ hadvances.breaks index hindex hchosen
  rcases getLastD_take_stages _ tracked.state.stage records hindex with hstage | hstage | hstage
  · refine ⟨[], .inl rfl, hends (hstage.trans ?_)⟩
    rw [placed, ← helements]
    rfl
  · refine ⟨[(tracked.state.seenAt table).emptied], .inr (.inl rfl), hends (hstage.trans ?_)⟩
    simp only [AnchoredTable.emptied, seenAt, hplaced]
    rfl
  · refine ⟨[tracked.state.seenAt table], .inr (.inr rfl), hends (hstage.trans ?_)⟩
    simp only [seenAt, hplaced]
    rfl

/-- What a batch that was chosen to fail leaves of the insertion of tables: the first ones are
in the document with their bold headers, one is left in between, and the others have not been
touched. -/
theorem exists_run_insertFrom_of_chosen (completed : Nat) (hid : tracked.state.id = id)
    (hlines : IsLines text)
    (helements : tracked.state.elements = before ++ paragraphs text ++ after)
    (hgrid : ∀ table ∈ tables, table.table.IsGrid)
    (hdescends : DescendsIn tables (stopOf before) text) (hchosen : tracked.state.chosen index)
    (hindex : index <
      (tables.map fun table => (tracked.state.seen table.table).batches).sum) :
    ∃ complete failing waiting shown records,
      tables = complete ++ failing :: waiting ∧ (tracked.state.seenAt failing).Leaves shown ∧
      (insertFrom client id completed tables).run.run tracked =
        (.error (failing.failure (completed + complete.length) (waiting.length + 1)
            EditIssue.simulated.failure),
          tracked.reach (index + 1)
            ⟨placed before text after (complete.map tracked.state.seenAt ++ shown),
              tracked.state.styles ++ records⟩) ∧
      NotesBold records ((complete.map tracked.state.seenAt).flatMap fun table =>
        table.table.headerCells) := by
  -- The failing batch belongs to the first table, or is counted anew after it.
  induction tables generalizing text after tracked completed index with
  | nil => exact absurd hindex (Nat.not_lt_zero _)
  | cons table rest ih =>
      obtain ⟨offset, hplace, hanchor, hoffset⟩ := hdescends.exists_offset
      have hgrids := hgrid table List.mem_cons_self
      rw [List.map_cons, List.sum_cons] at hindex
      by_cases hfirst : index < (tracked.state.seen table.table).batches
      · obtain ⟨shown, hleaves, hrun⟩ := exists_run_insertTable_of_chosen hid hgrids hlines
          helements hanchor hoffset hchosen hfirst
        refine ⟨[], table, rest, shown, [], rfl, hleaves, ?_, notesBold_nil rfl⟩
        rw [List.append_nil]
        refine run_bind_of_failed ?_ _
        rw [run_tryCatch, hrun]
        rfl
      · obtain ⟨records, hbold, hadvances⟩ :=
          exists_advances_insertTable hid hgrids hlines helements hanchor hoffset
        obtain ⟨place, rfl⟩ := Nat.exists_eq_add_of_le (Nat.le_of_not_lt hfirst)
        obtain ⟨report, hreport⟩ := hadvances.completes fun other hother hchosen' => by
          rw [length_stages _ _ hbold] at hother
          exact hfirst (chosen_unique hchosen hchosen' ▸ hother)
        rw [stages_getLastD (hgrids.seen _) hbold, length_stages _ _ hbold] at hreport
        obtain ⟨complete, failing, waiting, shown, more, hsplit, hleaves, hrun, hmore⟩ :=
          @ih (tracked.reach _ ⟨_, tracked.state.styles ++ records⟩) _ _ place (completed + 1) hid
            (isLines_append_lineEnd _) rfl
            (fun other hmem => hgrid other (List.mem_cons_of_mem _ hmem))
            (hdescends.tail hanchor hoffset) ((chosen_reach _ _ _ _).mpr hchosen)
            (Nat.lt_of_add_lt_add_left hindex)
        rw [Tracked.reach_reach] at hrun
        refine ⟨table :: complete, failing, waiting, shown, records ++ more, ?_, hleaves, ?_,
          hbold.append hmore⟩
        · rw [hsplit, List.cons_append]
        · rw [List.map_cons, List.cons_append,
            @placed_cons before (tracked.state.seenAt table) _ hplace, ← List.append_assoc,
            List.length_cons, Nat.add_comm complete.length, ← Nat.add_assoc completed]
          refine ((hreport.tryCatch _).run_bind _).trans ?_
          exact run_bind_of_failed hrun _

theorem take_succ_of_lineEnd {place : Nat} (hend : text[place]? = some '\n') :
    text.take (place + 1) = text.take place ++ ['\n'] := by
  rw [List.take_add_one, hend, Option.toList_some]

/-- A text up to a line end is made of whole lines. -/
theorem isLines_take_succ {place : Nat} (hend : text[place]? = some '\n') :
    IsLines (text.take (place + 1)) := by
  rw [take_succ_of_lineEnd hend]
  exact isLines_append_lineEnd _

/-- Elements that end with a line of a text stop behind the line end. -/
theorem stopOf_append_take {place : Nat} (before : List Element)
    (hend : text[place]? = some '\n') :
    stopOf (before ++ paragraphs (text.take (place + 1))) = stopOf before + place + 1 := by
  obtain ⟨hlt, _⟩ := List.getElem?_eq_some_iff.mp hend
  rw [stopOf_eq, stopOf_eq, elementsSize_append, (isLines_take_succ hend).elementsSize_paragraphs,
    List.length_take]
  omega

/-- Up to a line end that has no table before it, the paragraphs are those of the text. -/
theorem prefix_placed {offset : Nat} (hlineEnd : text[offset]? = some '\n')
    (hdescending : tables.Pairwise fun first second => second.anchor < first.anchor)
    (htables : ∀ table ∈ tables, offset ≤ (table.anchor - stopOf before).toNat ∧
      text[(table.anchor - stopOf before).toNat]? = some '\n') :
    before ++ paragraphs (text.take (offset + 1)) <+: placed before text after tables := by
  -- The line that a table breaks in two keeps its line end, so the cut is not seen before it.
  induction tables generalizing text after with
  | nil =>
      have hsplit := paragraphs_append (isLines_take_succ hlineEnd) (text.drop (offset + 1))
      rw [List.take_append_drop] at hsplit
      rw [placed, hsplit, List.append_assoc, List.append_assoc, ← List.append_assoc before]
      exact List.prefix_append _ _
  | cons table rest ih =>
      obtain ⟨hbelow, hdescending⟩ := List.pairwise_cons.mp hdescending
      obtain ⟨hplace, hend⟩ := htables table List.mem_cons_self
      generalize hoffset : (table.anchor - stopOf before).toNat = place at hplace hend
      have hrest := @ih (.table table.table.cells :: (paragraphs (text.drop place) ++ after))
        (text.take (place + 1)) (by rw [List.getElem?_take_of_lt (by omega), hlineEnd])
        hdescending (by
          intro other hmem
          have hother := hbelow other hmem
          obtain ⟨hlow, hend⟩ := htables other (List.mem_cons_of_mem _ hmem)
          exact ⟨hlow, by rw [List.getElem?_take_of_lt (by omega), hend]⟩)
      rw [List.take_take, Nat.min_eq_left (by omega)] at hrest
      rw [placed_cons hoffset, ← take_succ_of_lineEnd hend]
      exact hrest

end Insertion

/-! ## The tables of a compilation -/

/-- In the text that a compilation was inserted into, a table has its anchor at a line end. -/
theorem lineEnd_at_anchor {line : Text} {offset : Nat} {position start : Int}
    {blocks : List Block} (hstart : start = position + offset) (hoffset : offset < line.length)
    (hplane : ∀ c ∈ (compile blocks start).text, c.toNat < 0x10000) {table : TableDescriptor}
    (hmem : table ∈ (compile blocks start).tables) :
    (splice offset (compile blocks start).text line)[(table.anchored.anchor - position).toNat]? =
      some '\n' := by
  obtain ⟨anchor, hanchor, front, back, htext, hplace, _⟩ :=
    isEmptyLine_of_mem_compile_tables hmem
  have hfront : units front = front.length := by
    apply units_eq_length
    intro c hc
    exact hplane c (by rw [htext]; exact List.mem_append_left _ hc)
  have htake : (line.take offset).length = offset := List.length_take_of_le (Nat.le_of_lt hoffset)
  have hindex : (table.anchored.anchor - position).toNat = (line.take offset ++ front).length := by
    rw [anchored_anchor hanchor, hplace, hstart, hfront, List.length_append, htake]
    omega
  have hsplit : splice offset (compile blocks start).text line =
      (line.take offset ++ front) ++ '\n' :: (back ++ line.drop offset) := by
    rw [splice, htext]
    simp only [List.append_assoc, List.cons_append]
  rw [hindex, hsplit, List.getElem?_append_right (Nat.le_refl _), Nat.sub_self]
  rfl

section Compiled

variable {id : Option String} {tracked : Tracked MemoryDocument} {before after : List Element}
  {line : Text} {offset : Nat} {blocks : List Block} {start : Int} {tables : List TableDescriptor}
  {waiting complete : List TableDescriptor} {failing : TableDescriptor}
  {shown : List AnchoredTable}

/-- What there is of the tables of a compilation when a batch has failed. -/
structure PartlyInserted (drafted final : MemoryDocument) (left right : List (List (List Text)))
    (complete : List TableDescriptor) (failing : TableDescriptor) (anchor : Int) : Prop where
  tables_eq : ∃ shown ∈ [[], [emptyCells failing.rows failing.columns], [failing.cells]],
    final.tables = left ++ shown ++ complete.map TableDescriptor.cells ++ right
  styles_eq : ∃ records, final.styles = drafted.styles ++ records ∧
    NotesBold records (complete.reverse.flatMap TableDescriptor.headerCells)
  below_eq : ∃ below, stopOf below = anchor + 1 ∧ below <+: drafted.elements ∧
    below <+: final.elements

/-- Wherever the tables of a compilation are divided, those before one of them have lower
anchors and those after it have higher ones. -/
theorem exists_anchor_of_split
    (hsplit : (compile blocks start).tables = waiting ++ failing :: complete) :
    ∃ anchor, failing.anchor = some anchor ∧ failing.anchored.anchor = anchor ∧
      (∀ table ∈ complete, anchor < table.anchored.anchor) ∧
      ∀ table ∈ waiting, table.anchored.anchor < anchor := by
  have hascending := compile_tables_ascending start blocks
  rw [hsplit] at hascending
  obtain ⟨_, hcomplete, hwaiting⟩ := List.pairwise_append.mp hascending
  have hfailing : failing ∈ (compile blocks start).tables := by
    rw [hsplit]
    exact List.mem_append_right _ List.mem_cons_self
  obtain ⟨anchor, hanchor⟩ := exists_anchor_of_mem_compile hfailing
  obtain rfl := anchored_anchor hanchor
  exact ⟨_, hanchor, rfl, (List.pairwise_cons.mp hcomplete).1,
    fun table hmem => hwaiting table hmem failing List.mem_cons_self⟩

/-- What the batches up to the failing one have put into the document has the anchors of the
complete tables and of the one that failed. -/
theorem exists_mem_of_mem_shown (hleaves : failing.anchored.Leaves shown) {other : AnchoredTable}
    (hother : other ∈ (complete.map TableDescriptor.anchored).reverse ++ shown) :
    ∃ table ∈ failing :: complete, other.anchor = table.anchored.anchor := by
  rcases List.mem_append.mp hother with hother | hother
  · obtain ⟨table, htable, rfl⟩ := List.mem_map.mp (List.mem_reverse.mp hother)
    exact ⟨table, List.mem_cons_of_mem _ htable, rfl⟩
  · exact ⟨failing, List.mem_cons_self, hleaves.anchor_eq hother⟩

/-- What a failing table leaves stands before the tables that are complete. -/
theorem descending_of_leaves (hleaves : failing.anchored.Leaves shown)
    (hascending : (failing :: complete).Pairwise fun first second =>
      first.anchored.anchor < second.anchored.anchor) :
    ((complete.map TableDescriptor.anchored).reverse ++ shown).Pairwise fun first second =>
      second.anchor < first.anchor := by
  obtain ⟨hhigher, hcomplete⟩ := List.pairwise_cons.mp hascending
  refine List.pairwise_append.mpr ⟨?_, hleaves.pairwise _, ?_⟩
  · exact List.pairwise_reverse.mpr (List.pairwise_map.mpr hcomplete)
  · intro first hfirst second hsecond
    obtain ⟨table, htable, rfl⟩ := List.mem_map.mp (List.mem_reverse.mp hfirst)
    rw [hleaves.anchor_eq hsecond]
    exact hhigher table htable

/-- Up to the anchor of the failing table, and with the line end there, the document is the one
that took the text. -/
theorem exists_below_of_placed (hstart : start = stopOf before + offset)
    (hoffset : offset < line.length)
    (hplane : ∀ c ∈ (compile blocks start).text, c.toNat < 0x10000)
    (hsplit : (compile blocks start).tables = waiting ++ failing :: complete)
    (hleaves : failing.anchored.Leaves shown) (after : List Element) :
    let text := splice offset (compile blocks start).text line
    ∃ below, stopOf below = failing.anchored.anchor + 1 ∧
      below <+: before ++ paragraphs text ++ after ∧
      below <+: placed before text after
        ((complete.map TableDescriptor.anchored).reverse ++ shown) := by
  intro text
  have hascending := compile_tables_ascending start blocks
  rw [hsplit] at hascending
  have hupper := (List.pairwise_append.mp hascending).2.1
  have hmem : ∀ table ∈ failing :: complete, table ∈ (compile blocks start).tables := by
    intro table htable
    rw [hsplit]
    exact List.mem_append_right _ htable
  have hlow := (compile_tables_within hplane (hmem failing List.mem_cons_self)).1
  have hend : text[(failing.anchored.anchor - stopOf before).toNat]? = some '\n' :=
    lineEnd_at_anchor hstart hoffset hplane (hmem failing List.mem_cons_self)
  refine ⟨_, ?_, prefix_placed hend List.Pairwise.nil fun _ hnone => absurd hnone List.not_mem_nil,
    prefix_placed hend (descending_of_leaves hleaves hupper) ?_⟩
  · rw [stopOf_append_take before hend]
    omega
  · intro other hother
    obtain ⟨table, htable, hanchor⟩ := exists_mem_of_mem_shown hleaves hother
    have hhigh : failing.anchored.anchor ≤ table.anchored.anchor := by
      rcases List.mem_cons.mp htable with rfl | htable
      · exact Int.le_refl _
      · exact Int.le_of_lt ((List.pairwise_cons.mp hupper).1 table htable)
    rw [hanchor]
    exact ⟨by omega, lineEnd_at_anchor hstart hoffset hplane (hmem table htable)⟩

/-- The tables that stand in a text decide what there is of the others. -/
theorem partlyInserted_of_placed {drafted final : MemoryDocument} {records : List StyleRecord}
    (hstart : start = stopOf before + offset) (hoffset : offset < line.length)
    (hplane : ∀ c ∈ (compile blocks start).text, c.toNat < 0x10000)
    (hsplit : (compile blocks start).tables = waiting ++ failing :: complete)
    (hdrafted : drafted.elements =
      before ++ paragraphs (splice offset (compile blocks start).text line) ++ after)
    (hleaves : failing.anchored.Leaves shown)
    (hfinal : final.elements = placed before (splice offset (compile blocks start).text line) after
      ((complete.map TableDescriptor.anchored).reverse ++ shown))
    (hstyles : final.styles = drafted.styles ++ records)
    (hbold : NotesBold records (complete.reverse.flatMap TableDescriptor.headerCells)) :
    PartlyInserted drafted final (tablesOf before) (tablesOf after) complete failing
      failing.anchored.anchor where
  tables_eq := by
    refine ⟨_, hleaves.cells_mem, ?_⟩
    change tablesOf final.elements = _
    rw [hfinal, tablesOf_placed, List.reverse_append, List.map_append, List.reverse_reverse,
      List.map_map]
    simp only [List.append_assoc]
    rfl
  styles_eq := ⟨records, hstyles, hbold⟩
  below_eq := by
    rw [hdrafted, hfinal]
    exact exists_below_of_placed hstart hoffset hplane hsplit hleaves after

/-- Where anchored tables, the last one first, are divided, the tables themselves are. -/
theorem exists_split_of_anchored {done left : List AnchoredTable} {table : AnchoredTable}
    (hsplit : (tables.map TableDescriptor.anchored).reverse = done ++ table :: left) :
    ∃ waiting failing complete, tables = waiting ++ failing :: complete ∧
      table = failing.anchored ∧ done = (complete.map TableDescriptor.anchored).reverse ∧
      left = (waiting.map TableDescriptor.anchored).reverse := by
  have hforward : tables.map TableDescriptor.anchored = left.reverse ++ table :: done.reverse := by
    rw [← List.reverse_reverse (tables.map _), hsplit]
    simp
  obtain ⟨waiting, others, htables, hwaiting, hothers⟩ := List.map_eq_append_iff.mp hforward
  obtain ⟨failing, complete, rfl, rfl, hcomplete⟩ := List.map_eq_cons_iff.mp hothers
  exact ⟨waiting, failing, complete, htables, rfl, by rw [hcomplete, List.reverse_reverse],
    by rw [hwaiting, List.reverse_reverse]⟩

/-- How the failure of a batch that was chosen to fail is reported. -/
theorem failure_simulated (table : AnchoredTable) (completed remaining : Nat) :
    table.failure completed remaining EditIssue.simulated.failure =
      { fault := .tables (.failedAt table.anchor EditIssue.simulated.failure.fault.message)
          completed remaining (some 500)
        cause := some EditIssue.simulated.failure.fault } := rfl

/-- Where the text of a compilation is in a document and a batch that inserts the tables was
chosen to fail, they are partly inserted. -/
theorem exists_run_insertTables_of_chosen {index : Nat} (hid : tracked.state.id = id)
    (hrows : tracked.state.visibleRows = none) (hcolumns : tracked.state.visibleColumns = none)
    (hline : IsParagraph line) (hstart : start = stopOf before + offset)
    (hoffset : offset < line.length)
    (hplane : ∀ c ∈ (compile blocks start).text, c.toNat < 0x10000)
    (hperm : tables.Perm (compile blocks start).tables)
    (helements : tracked.state.elements =
      before ++ paragraphs (splice offset (compile blocks start).text line) ++ after)
    (hchosen : tracked.state.chosen index)
    (hindex : index < ((compile blocks start).tables.map TableDescriptor.batches).sum) :
    ∃ waiting failing complete final,
      (compile blocks start).tables = waiting ++ failing :: complete ∧
      (Tracked.insertTables client id tables).run.run tracked =
        (.error
          { fault := .tables
              (.failedAt failing.anchored.anchor EditIssue.simulated.failure.fault.message)
              complete.length (waiting.length + 1) (some 500)
            cause := some EditIssue.simulated.failure.fault }, final) ∧
      PartlyInserted tracked.state final.state (tablesOf before) (tablesOf after) complete failing
        failing.anchored.anchor := by
  have hgrid : ∀ table ∈ ((compile blocks start).tables.map TableDescriptor.anchored).reverse,
      table.table.IsGrid := fun _ hmem => isGrid_of_mem_anchored hmem
  have hseen := map_seenAt_eq_self hrows hcolumns hgrid
  rw [← sum_batches_anchored, ← hseen, List.map_map] at hindex
  obtain ⟨done, table, left, shown, records, hsplit, hleaves, hrun, hbold⟩ :=
    exists_run_insertFrom_of_chosen 0 hid (isLines_splice hline hoffset _) helements hgrid
      (descendsIn_compile_tables hstart hoffset hplane) hchosen hindex
  rw [hsplit, List.map_append, List.map_cons] at hseen
  obtain ⟨hdone, htable⟩ := List.append_inj hseen (List.length_map _)
  rw [hdone] at hrun hbold
  rw [(List.cons.inj htable).1] at hleaves
  -- Back from the anchored tables, the last one first, to those of the compilation.
  obtain ⟨waiting, failing, complete, htables, rfl, rfl, rfl⟩ := exists_split_of_anchored hsplit
  rw [failure_simulated, List.length_reverse, List.length_map, List.length_reverse,
    List.length_map, Nat.zero_add, ← insertTables_eq client id hperm] at hrun
  rw [← List.map_reverse, List.flatMap_map] at hbold
  exact ⟨waiting, failing, complete, _, htables, hrun,
    partlyInserted_of_placed hstart hoffset hplane htables helements hleaves rfl rfl hbold⟩

end Compiled

/-- When the requests of a compilation have been sent and one of the batches that insert its
tables fails, whichever it is, the failure has the status of the one that was met and tells
how many tables are complete and how many are not. The complete ones are those with the
highest anchors; they are in the document with all their texts and with their headers noted
bold. Of the next one there is nothing, or the empty table, or the table with its texts but
without a bold header. The elements that begin before its anchor, and the one that does at the
anchor, are those that the document had before. -/
theorem insertTables_partly_of_failure {document : MemoryDocument} {id : Option String}
    {before after : List Element} {line : Text} {offset : Nat} {blocks : List Block} {start : Int}
    {tables : List TableDescriptor} (hreliable : document.Reliable id)
    (helements : document.elements = before ++ .paragraph line :: after)
    (hparagraphs : ∀ text, .paragraph text ∈ document.elements → IsParagraph text)
    (hstart : start = stopOf before + offset) (hoffset : offset < line.length)
    (hplane : ∀ c ∈ (compile blocks start).text, c.toNat < 0x10000)
    (hperm : tables.Perm (compile blocks start).tables) (generation : Int) :
    let result := compile blocks start
    ∃ reply drafted report published,
      Yields (client.mutate id result.requests) document reply drafted ∧
      drafted.mutations = document.mutations + 1 ∧
      Yields (Tracked.insertTables client id tables) ⟨generation, drafted⟩ report published ∧
      published.state.mutations =
        drafted.mutations + (result.tables.map TableDescriptor.batches).sum ∧
      ∀ number : Nat, drafted.mutations < number → number ≤ published.state.mutations →
        ∃ waiting failing complete anchor final,
          result.tables = waiting ++ failing :: complete ∧ failing.anchor = some anchor ∧
          (∀ table ∈ complete, anchor < table.anchored.anchor) ∧
          (∀ table ∈ waiting, table.anchored.anchor < anchor) ∧
          (Tracked.insertTables client id tables).run.run
              ⟨generation, { drafted with failAt := some ↑number }⟩ =
            (.error
              { fault := .tables (.failedAt anchor EditIssue.simulated.failure.fault.message)
                  complete.length (waiting.length + 1) (some 500)
                cause := some EditIssue.simulated.failure.fault }, final) ∧
          PartlyInserted drafted final.state (tablesOf before) (tablesOf after) complete failing
            anchor := by
  intro result
  have hline : IsParagraph line := hparagraphs line (by rw [helements]; simp)
  obtain ⟨reply, drafted, report, records, hmutate, hreliable, hdrafted, hcount, hinsert, _⟩ :=
    hreliable.exists_yields_compiled helements hparagraphs hstart hoffset hplane hperm generation
  refine ⟨reply, drafted, report, _, hmutate, hcount, hinsert, rfl, ?_⟩
  intro number hlow hhigh
  obtain ⟨index, hindex⟩ := Nat.exists_eq_add_of_lt hlow
  have hlt : index < (result.tables.map TableDescriptor.batches).sum := by
    change number ≤ drafted.mutations + (result.tables.map TableDescriptor.batches).sum at hhigh
    omega
  -- The document that the tables go into differs only in which batch is chosen to fail.
  obtain ⟨waiting, failing, complete, final, htables, hrun, hpartly⟩ :=
    @exists_run_insertTables_of_chosen id
      ⟨generation, { drafted with failAt := some ↑number }⟩ before after line offset blocks start
      tables index hreliable.id_eq hreliable.visibleRows_eq hreliable.visibleColumns_eq hline hstart
      hoffset hplane hperm hdrafted (congrArg (some ∘ Nat.cast) hindex) hlt
  obtain ⟨anchor, hanchor, rfl, hcomplete, hwaiting⟩ := exists_anchor_of_split htables
  exact ⟨waiting, failing, complete, _, final, htables, hanchor, hcomplete, hwaiting, hrun,
    hpartly.tables_eq, hpartly.styles_eq, hpartly.below_eq⟩

/-- The first of the two tables fails when its cells are filled. -/
theorem insertTables_partly_tableBlocks :
    ∃ reply drafted waiting failing complete anchor final,
      Yields (client.mutate (some "d") (compile tableBlocks 10).requests) framedDocument reply
        drafted ∧
      (compile tableBlocks 10).tables = waiting ++ failing :: complete ∧
      (Tracked.insertTables client (some "d") (compile tableBlocks 10).tables.reverse).run.run
          ⟨0, { drafted with failAt := some 6 }⟩ =
        (.error
          { fault := .tables (.failedAt anchor EditIssue.simulated.failure.fault.message)
              complete.length (waiting.length + 1) (some 500)
            cause := some EditIssue.simulated.failure.fault }, final) ∧
      PartlyInserted drafted final.state [[[['p']]]] [[[['q']]]] complete failing anchor := by
  have htext : (compile tableBlocks 10).text = ['\n', 'm', '\n', '\n'] := by decide +kernel
  have hplane : ∀ c ∈ (compile tableBlocks 10).text, c.toNat < 0x10000 := by
    simp [htext]
  have hbatches : ((compile tableBlocks 10).tables.map TableDescriptor.batches).sum = 6 := by
    decide +kernel
  obtain ⟨reply, drafted, report, published, hdraft, hdrafted, _, hpublished, hpartly⟩ :=
    @insertTables_partly_of_failure framedDocument (some "d")
      [.paragraph ['a', '\n'], .table [[['p']]]] [.table [[['q']]], .paragraph ['\n']]
      ['b', 'c', '\n'] 1 tableBlocks 10 _ ⟨rfl, rfl, rfl, rfl⟩ rfl
      (fun _ hmem => framedDocument_isParagraph hmem) rfl (by decide) hplane
      (List.reverse_perm _) 0
  have hbefore : drafted.mutations = 1 := hdrafted
  rw [hbatches] at hpublished
  obtain ⟨waiting, failing, complete, anchor, final, htables, _, _, _, hrun, hleft⟩ :=
    hpartly 6 (by omega) (by omega)
  exact ⟨reply, drafted, waiting, failing, complete, anchor, final, hdraft, htables, hrun, hleft⟩

end DocPress
