import Mathlib.Algebra.GroupWithZero.Nat
import DocPress.Proofs.MemoryDocument.Stages
import DocPress.Proofs.Tables.Filling

/-!
# Inserting tables one after the other

Every table is inserted where its anchor lies in some paragraphs, is found again as the
first table that does not begin before the anchor, and is filled there. The paragraphs
before the anchor keep their positions, so that the tables with smaller anchors can
follow. In the end the tables stand in the order of their anchors.
-/

namespace DocPress

open MemoryDocument Tracked TableDescriptor

variable {id : Option String} {tracked : Tracked MemoryDocument} {edited : List Element}

/-! ## One table -/

/-- A row in which nothing is to be filled has no text. -/
theorem all_isEmpty_of_filledRow_eq_nil {number column : Nat} {row : List Text}
    (hnone : filledRow number column row = []) : row.all List.isEmpty := by
  induction row generalizing column with
  | nil => rfl
  | cons text rest ih =>
      by_cases htext : text = []
      · rw [htext, filledRow_cons_nil] at hnone
        rw [htext, List.all_cons, ih hnone]
        rfl
      · rw [filledRow_cons_of_ne htext] at hnone
        exact absurd hnone (List.cons_ne_nil _ _)

theorem all_isEmpty_headerCells {table : TableDescriptor} (hgrid : table.IsGrid)
    (hnone : filled table.cells = []) : table.headerCells.all List.isEmpty := by
  obtain ⟨header, below, hcells⟩ := List.exists_cons_of_ne_nil hgrid.cells_ne_nil
  rw [hcells, filled_eq, filledFrom_cons, List.append_eq_nil_iff] at hnone
  rw [headerCells, hcells, List.headD_cons]
  exact all_isEmpty_of_filledRow_eq_nil hnone.1

theorem all_isEmpty_seenRow {row : List Text} (hempty : row.all List.isEmpty) (width : Nat) :
    (seenRow width row).all List.isEmpty := by
  induction row generalizing width with
  | nil => cases width <;> rfl
  | cons text rest ih =>
      rw [List.all_cons, Bool.and_eq_true] at hempty
      cases width with
      | zero => exact ih hempty.2 0
      | succ width => rw [seenRow, List.all_cons, hempty.1, ih hempty.2 width, Bool.and_self]

/-- A header without text shows no text. -/
theorem all_isEmpty_seen {table : TableDescriptor} (hgrid : table.IsGrid)
    (hempty : table.headerCells.all List.isEmpty) (document : MemoryDocument) :
    (document.seen table).headerCells.all List.isEmpty := by
  obtain ⟨header, below, hcells⟩ := List.exists_cons_of_ne_nil hgrid.cells_ne_nil
  rw [headerCells, hcells, List.headD_cons] at hempty
  rw [headerCells, MemoryDocument.seen, hcells, seenRows_cons, List.headD_cons]
  exact all_isEmpty_seenRow hempty _

/-- The stages of a document that gets a table: it is there and empty, its texts are in
their cells, its header is noted bold. A stage that would change nothing is left out. The
elements are those around the cells of the table. -/
def TableDescriptor.stages (table : TableDescriptor) (around : List (List Text) → List Element)
    (styles records : List StyleRecord) : List Stage :=
  ⟨around (emptyCells table.rows table.columns), styles⟩ ::
    ((if filled table.cells = [] then [] else [⟨around table.cells, styles⟩]) ++
      (if records = [] then [] else [⟨around table.cells, styles ++ records⟩]))

/-- Where there are no texts to fill in, the table is there and empty. -/
theorem TableDescriptor.stages_of_blank {table : TableDescriptor}
    (hblank : filled table.cells = []) (around : List (List Text) → List Element)
    (styles : List StyleRecord) :
    table.stages around styles [] = [⟨around (emptyCells table.rows table.columns), styles⟩] := by
  rw [stages, if_pos hblank, if_pos rfl, List.append_nil]

/-- Where there are texts, they are filled in before the header is made bold. -/
theorem TableDescriptor.stages_of_filled {table : TableDescriptor}
    (hfilled : filled table.cells ≠ []) (around : List (List Text) → List Element)
    (styles records : List StyleRecord) :
    table.stages around styles records =
      ⟨around (emptyCells table.rows table.columns), styles⟩ :: ([⟨around table.cells, styles⟩] ++
        if records = [] then [] else [⟨around table.cells, styles ++ records⟩]) := by
  rw [stages, if_neg hfilled]

/-- The number of batches that insert a table. -/
def TableDescriptor.batches (table : TableDescriptor) : Nat :=
  1 + ((if filled table.cells = [] then 0 else 1) +
    (if table.headerCells.all List.isEmpty then 0 else 1))

/-- Each batch leads to a stage of its own. -/
theorem TableDescriptor.length_stages {table : TableDescriptor}
    (around : List (List Text) → List Element) (styles : List StyleRecord)
    {records : List StyleRecord} (hbold : NotesBold records table.headerCells) :
    (table.stages around styles records).length = table.batches := by
  rw [stages, batches, List.length_cons, List.length_append, Nat.add_comm 1]
  simp only [hbold.eq_nil_iff]
  split <;> split <;> rfl

/-- Elements with a table where a line of some paragraphs was broken in two. -/
def withTable (before : List Element) (text : Text) (after : List Element) (offset : Nat)
    (cells : List (List Text)) : List Element :=
  before ++ paragraphs (text.take offset ++ ['\n']) ++
    .table cells :: (paragraphs (text.drop offset) ++ after)

/-- In the end the texts are in their cells and the header is noted, even if some stages were left
out. -/
theorem TableDescriptor.stages_getLastD {table : TableDescriptor} (hgrid : table.IsGrid)
    {around : List (List Text) → List Element} {styles records : List StyleRecord}
    (hbold : NotesBold records table.headerCells) (stage : Stage) :
    (table.stages around styles records).getLastD stage =
      ⟨around table.cells, styles ++ records⟩ := by
  by_cases hnone : filled table.cells = []
  · -- A grid in which nothing is to be filled is the empty one.
    have hcells : emptyCells table.rows table.columns = table.cells := by
      have hfill := @performs_fillGrid [] [] _ hgrid
      rw [hnone] at hfill
      exact Element.table.inj (List.cons.inj hfill.of_nil.1).1
    obtain rfl := hbold.eq_nil_iff.mpr (all_isEmpty_headerCells hgrid hnone)
    simp [stages, hnone, hcells]
  · by_cases hrecords : records = []
    · simp [stages, hnone, hrecords]
    · simp [stages, hnone, hrecords]

section One

variable {before after : List Element} {text : Text} {table : AnchoredTable}

/-- The first table that does not begin before an anchor. -/
theorem yields_locateTable {cells : List (List Text)} {anchor : Int}
    (hid : tracked.state.id = id)
    (helements : tracked.state.elements = before ++ paragraphs text ++ .table cells :: after)
    (hlow : stopOf before ≤ anchor) (hhigh : anchor ≤ stopOf (before ++ paragraphs text)) :
    Yields (locate client id anchor) tracked
      (tracked.state.layoutAt tracked.generation (stopOf (before ++ paragraphs text)) cells)
      tracked := by
  refine yields_locate (yields_query hid) ?_
  rw [snapshot_tables, helements]
  exact find?_layouts _ _ hlow hhigh

/-- A header is made bold wherever the table can be found. -/
theorem exists_advances_boldHeader (hid : tracked.state.id = id) (hgrid : table.table.IsGrid)
    (helements : tracked.state.elements =
      before ++ paragraphs text ++ .table (tracked.state.seen table.table).cells :: after)
    (hlow : stopOf before ≤ table.anchor)
    (hhigh : table.anchor ≤ stopOf (before ++ paragraphs text)) :
    ∃ records, NotesBold records (tracked.state.seen table.table).headerCells ∧
      Advances (boldHeader client id table) tracked
        (if records = [] then []
        else [⟨tracked.state.elements, tracked.state.styles ++ records⟩]) := by
  obtain ⟨records, hperforms, hlength, hbold⟩ := @exists_performs_boldRequests tracked.state
    table.table hgrid tracked.generation (before ++ paragraphs text) after
  rw [← helements] at hperforms
  rw [boldHeader]
  split
  next hempty =>
    exact ⟨[], notesBold_nil (all_isEmpty_seen hgrid hempty _), advances_pure 0⟩
  next =>
    refine ⟨records, hbold, (yields_locateTable hid helements hlow hhigh).advances_bind ?_⟩
    refine (yields_boldRequests rfl).advances_bind ?_
    split
    next hnone =>
      rw [List.isEmpty_iff.mp hnone, List.length_nil, List.length_eq_zero_iff] at hlength
      rw [if_pos hlength]
      exact advances_pure 0
    next hsome =>
      rw [List.isEmpty_iff_length_eq_zero, ← hlength, List.length_eq_zero_iff] at hsome
      rw [if_neg hsome]
      exact (advances_mutate hid hperforms).bind_pure _

/-- A table begins right after the line that was broken off before it. -/
theorem stopOf_append_front {offset : Nat} (before : List Element)
    (hoffset : offset < text.length) :
    stopOf (before ++ paragraphs (text.take offset ++ ['\n'])) = stopOf before + offset + 1 := by
  rw [stopOf_eq, stopOf_eq, elementsSize_append,
    (isLines_append_lineEnd _).elementsSize_paragraphs, List.length_append,
    List.length_take_of_le (Nat.le_of_lt hoffset), List.length_singleton]
  omega

/-- The first batch breaks the line at the anchor in two and puts the empty table between. -/
theorem advances_mutate_insertTable {offset : Nat} (hid : tracked.state.id = id)
    (hlines : IsLines text)
    (helements : tracked.state.elements = before ++ paragraphs text ++ after)
    (hanchor : table.anchor = stopOf before + offset) (hoffset : offset < text.length) :
    Advances (mutate client id [.insertTable table.anchor table.table.rows table.table.columns])
      tracked
      [⟨withTable before text after offset (emptyCells table.table.rows table.table.columns),
        tracked.state.styles⟩] := by
  have hinsert : insertTable table.anchor table.table.rows table.table.columns
      tracked.state.elements =
        .ok (withTable before text after offset
          (emptyCells table.table.rows table.table.columns)) :=
    helements ▸ insertTable_paragraphs hlines hanchor hoffset table.table.rows table.table.columns
  have hinserted := @advances_mutate id tracked _ _ _ hid (performs_insertTable hinsert)
  rwa [List.append_nil] at hinserted

/-- Fill the table at an anchor and make its header bold: what is left to do when the empty
table is in the document. -/
def fillTable {σ : Type} (client : Client σ) (id : Option String) (table : AnchoredTable) :
    Action (Tracked σ) TableReport := do
  let layout ← locate client id table.anchor
  let batch ← cellBatch layout table.table
  if batch.requests.isEmpty then return { inserted := 1, skipped := batch.skipped }
  let _ ← mutate client id batch.requests
  let bolded ← boldHeader client id table
  return { inserted := 1, filled := batch.requests.length, skipped := batch.skipped, bolded }

/-- An empty table gets the texts that can be seen into its cells, and a bold header. -/
theorem exists_advances_fillTable {offset : Nat} (hid : tracked.state.id = id)
    (hgrid : table.table.IsGrid)
    (helements : tracked.state.elements =
      withTable before text after offset (emptyCells table.table.rows table.table.columns))
    (hanchor : table.anchor = stopOf before + offset) (hoffset : offset < text.length) :
    ∃ records, NotesBold records (tracked.state.seen table.table).headerCells ∧
      Advances (fillTable client id table) tracked
        ((tracked.state.seen table.table).stages (withTable before text after offset)
          tracked.state.styles records).tail := by
  have hfront := stopOf_append_front before hoffset
  have hlocated := yields_locateTable hid helements
    (show stopOf before ≤ table.anchor by omega) (by omega)
  obtain ⟨batch, hbatch, hempty, hfill⟩ := @exists_performs_cellBatch tracked.state _ hgrid
    tracked.generation (before ++ paragraphs (text.take offset ++ ['\n']))
    (paragraphs (text.drop offset) ++ after)
  have hfill : Performs batch.requests tracked.state.elements []
      (withTable before text after offset (tracked.state.seen table.table).cells) := by
    rw [helements]
    exact hfill
  -- If no text can be seen, nothing is sent and the header is not looked at.
  by_cases hblank : filled (tracked.state.seen table.table).cells = []
  · refine ⟨[], notesBold_nil (all_isEmpty_headerCells (hgrid.seen _) hblank), ?_⟩
    rw [stages_of_blank hblank, List.tail_cons]
    refine hlocated.advances_bind ((yields_cellBatch rfl hbatch).advances_bind ?_)
    rw [if_pos (hempty.mpr hblank)]
    exact advances_pure _
  · have hfilled := @advances_mutate id tracked _ _ _ hid hfill
    rw [List.append_nil] at hfilled
    obtain ⟨records, hbold, hheader⟩ := @exists_advances_boldHeader id
      (tracked.reach 1 ⟨withTable before text after offset (tracked.state.seen table.table).cells,
        tracked.state.styles⟩) before _ (text.take offset ++ ['\n']) table hid hgrid rfl
      (by omega) (by omega)
    refine ⟨records, hbold, ?_⟩
    rw [stages_of_filled hblank, List.tail_cons]
    refine hlocated.advances_bind ((yields_cellBatch rfl hbatch).advances_bind ?_)
    rw [if_neg (mt hempty.mp hblank)]
    exact hfilled.bind fun _ => hheader.bind_pure _

/-- A table inserted at a place of some paragraphs breaks the line there in two, and gets
the texts that can be seen into its cells. -/
theorem exists_advances_insertTable {offset : Nat} (hid : tracked.state.id = id)
    (hgrid : table.table.IsGrid) (hlines : IsLines text)
    (helements : tracked.state.elements = before ++ paragraphs text ++ after)
    (hanchor : table.anchor = stopOf before + offset) (hoffset : offset < text.length) :
    ∃ records, NotesBold records (tracked.state.seen table.table).headerCells ∧
      Advances (Tracked.insertTable client id table) tracked
        ((tracked.state.seen table.table).stages (withTable before text after offset)
          tracked.state.styles records) := by
  have hinserted := advances_mutate_insertTable hid hlines helements hanchor hoffset
  obtain ⟨records, hbold, hfilled⟩ := @exists_advances_fillTable id (tracked.reach 1
    ⟨withTable before text after offset (emptyCells table.table.rows table.table.columns),
      tracked.state.styles⟩) before after text table offset hid hgrid rfl hanchor hoffset
  exact ⟨records, hbold, hinserted.bind fun _ => hfilled⟩

end One

/-! ## Tables at descending anchors -/

/-- A text that begins at a position, with one line end more before every character that
stands at an anchor. -/
def withLineEnds (anchors : List Int) (position : Int) : Text → Text
  | [] => []
  | c :: rest =>
      let others := withLineEnds anchors (position + 1) rest
      if position ∈ anchors then '\n' :: c :: others else c :: others

section LineEnds

variable {anchors : List Int} {position : Int} {text : Text}

/-- Line ends are put into two texts each for itself. -/
theorem withLineEnds_append (anchors : List Int) (position : Int) (first second : Text) :
    withLineEnds anchors position (first ++ second) =
      withLineEnds anchors position first ++
        withLineEnds anchors (position + first.length) second := by
  induction first generalizing position with
  | nil => simp [withLineEnds]
  | cons c rest ih =>
      have hposition : position + 1 + rest.length = position + (c :: rest).length := by
        rw [List.length_cons]
        omega
      rw [List.cons_append, withLineEnds, ih, hposition, withLineEnds]
      split
      · rfl
      · rfl

/-- Only the anchors inside a text count. -/
theorem withLineEnds_congr {others : List Int}
    (hanchors : ∀ anchor, position ≤ anchor → anchor < position + text.length →
      (anchor ∈ anchors ↔ anchor ∈ others)) :
    withLineEnds anchors position text = withLineEnds others position text := by
  induction text generalizing position with
  | nil => rfl
  | cons c rest ih =>
      rw [List.length_cons] at hanchors
      have hhere := hanchors position (Int.le_refl _) (by omega)
      have hrest : withLineEnds anchors (position + 1) rest =
          withLineEnds others (position + 1) rest :=
        ih fun anchor hlow hhigh => hanchors anchor (by omega) (by omega)
      rw [withLineEnds, withLineEnds, hrest]
      by_cases hmem : position ∈ anchors
      · rw [if_pos hmem, if_pos (hhere.mp hmem)]
      · rw [if_neg hmem, if_neg (fun hother => hmem (hhere.mpr hother))]

/-- Anchors outside a text leave it alone. -/
theorem withLineEnds_eq_self
    (hanchors : ∀ anchor ∈ anchors, anchor < position ∨ position + text.length ≤ anchor) :
    withLineEnds anchors position text = text := by
  have hnone : withLineEnds anchors position text = withLineEnds [] position text := by
    apply withLineEnds_congr
    intro anchor hlow hhigh
    constructor
    · intro hmem
      have := hanchors anchor hmem
      omega
    · exact fun hmem => absurd hmem List.not_mem_nil
  rw [hnone]
  clear hnone hanchors
  induction text generalizing position with
  | nil => rfl
  | cons c rest ih => rw [withLineEnds, if_neg List.not_mem_nil, ih]

/-- The last anchor of a text adds its line end where the text is broken in two. -/
theorem withLineEnds_cons {offset : Nat} (hoffset : offset < text.length)
    (hanchors : ∀ anchor ∈ anchors, anchor < position + offset) :
    withLineEnds ((position + offset) :: anchors) position text =
      withLineEnds anchors position (text.take offset ++ ['\n']) ++ text.drop offset := by
  have htake : (text.take offset).length = offset := List.length_take_of_le (Nat.le_of_lt hoffset)
  have hfront : withLineEnds ((position + offset) :: anchors) position (text.take offset) =
      withLineEnds anchors position (text.take offset) := by
    apply withLineEnds_congr
    intro anchor _ hhigh
    rw [htake] at hhigh
    rw [List.mem_cons]
    constructor
    · intro hmem
      exact hmem.resolve_left (by omega)
    · exact Or.inr
  have hlineEnd : withLineEnds anchors (position + offset) ['\n'] = ['\n'] :=
    withLineEnds_eq_self fun anchor hmem => Or.inl (hanchors anchor hmem)
  have hback : withLineEnds ((position + offset) :: anchors) (position + offset)
      (text.drop offset) = '\n' :: text.drop offset := by
    obtain ⟨c, rest, hdrop⟩ := List.exists_cons_of_ne_nil
      (fun hnil => absurd (List.drop_eq_nil_iff.mp hnil) (Nat.not_le_of_lt hoffset))
    rw [hdrop, withLineEnds, if_pos List.mem_cons_self, withLineEnds_eq_self]
    intro anchor hmem
    rcases List.mem_cons.mp hmem with rfl | hmem
    · omega
    · have := hanchors anchor hmem
      omega
  conv =>
    lhs
    rw [← List.take_append_drop offset text, withLineEnds_append, htake, hfront, hback]
  rw [withLineEnds_append, htake, hlineEnd, List.append_assoc, List.singleton_append]

theorem withLineEnds_reverse (anchors : List Int) (position : Int) (text : Text) :
    withLineEnds anchors.reverse position text = withLineEnds anchors position text :=
  withLineEnds_congr fun _ _ _ => List.mem_reverse

/-- Anchors inside an inserted text add nothing around it. -/
theorem withLineEnds_splice {line inserted : Text} {offset : Nat} (hoffset : offset < line.length)
    (hinside : ∀ anchor ∈ anchors,
      position + offset ≤ anchor ∧ anchor < position + offset + inserted.length) :
    withLineEnds anchors position (splice offset inserted line) =
      line.take offset ++ withLineEnds anchors (position + offset) inserted ++
        line.drop offset := by
  have htake : (line.take offset).length = offset := List.length_take_of_le (Nat.le_of_lt hoffset)
  have hfront : withLineEnds anchors position (line.take offset) = line.take offset := by
    apply withLineEnds_eq_self
    intro anchor hmem
    have := (hinside anchor hmem).1
    omega
  have hback : withLineEnds anchors (position + offset + inserted.length) (line.drop offset) =
      line.drop offset := by
    apply withLineEnds_eq_self
    intro anchor hmem
    exact .inl (hinside anchor hmem).2
  rw [splice, List.append_assoc, withLineEnds_append, withLineEnds_append, htake, hfront, hback,
    List.append_assoc]

end LineEnds

/-- The elements after tables were inserted, the first one first, at their anchors in
some paragraphs. -/
def placed (before : List Element) (text : Text) (after : List Element) :
    List AnchoredTable → List Element
  | [] => before ++ paragraphs text ++ after
  | table :: rest =>
      let offset := (table.anchor - stopOf before).toNat
      placed before (text.take offset ++ ['\n'])
        (.table table.table.cells :: (paragraphs (text.drop offset) ++ after)) rest

/-- Whether anchors descend, and all of them are positions of a text. -/
structure DescendsIn (tables : List AnchoredTable) (position : Int) (text : Text) : Prop where
  descending : tables.Pairwise fun first second => second.anchor < first.anchor
  low : ∀ table ∈ tables, position ≤ table.anchor
  high : ∀ table ∈ tables, table.anchor < position + text.length

/-- The table with the largest anchor is placed first. -/
theorem placed_cons {before : List Element} {table : AnchoredTable} {offset : Nat}
    (hplace : (table.anchor - stopOf before).toNat = offset) (text : Text) (after : List Element)
    (rest : List AnchoredTable) :
    placed before text after (table :: rest) =
      placed before (text.take offset ++ ['\n'])
        (.table table.table.cells :: (paragraphs (text.drop offset) ++ after)) rest := by
  rw [← hplace]
  rfl

section Descending

variable {before after : List Element} {text : Text} {table : AnchoredTable}
  {rest tables : List AnchoredTable} {position : Int}

theorem DescendsIn.exists_offset (hdescends : DescendsIn (table :: rest) position text) :
    ∃ offset : Nat, (table.anchor - position).toNat = offset ∧
      table.anchor = position + offset ∧ offset < text.length := by
  have hlow := hdescends.low table List.mem_cons_self
  have hhigh := hdescends.high table List.mem_cons_self
  exact ⟨_, rfl, by omega, by omega⟩

/-- The tables that follow have their anchors before the first one. -/
theorem DescendsIn.tail (hdescends : DescendsIn (table :: rest) position text) {offset : Nat}
    (hanchor : table.anchor = position + offset) (hoffset : offset < text.length) :
    DescendsIn rest position (text.take offset ++ ['\n']) where
  descending := hdescends.descending.of_cons
  low := fun other hmem => hdescends.low other (List.mem_cons_of_mem _ hmem)
  high := by
    intro other hmem
    have hbelow := (List.pairwise_cons.mp hdescends.descending).1 other hmem
    rw [List.length_append, List.length_take_of_le (Nat.le_of_lt hoffset), List.length_singleton]
    omega

/-- A table with the texts that can be seen once it is in a document. -/
def MemoryDocument.seenAt (document : MemoryDocument) (table : AnchoredTable) : AnchoredTable :=
  { table with table := document.seen table.table }

/-- A document that hides nothing shows grids as they are. -/
theorem map_seenAt_eq_self {document : MemoryDocument} (hrows : document.visibleRows = none)
    (hcolumns : document.visibleColumns = none) (hgrid : ∀ table ∈ tables, table.table.IsGrid) :
    tables.map document.seenAt = tables := by
  conv_rhs => rw [← List.map_id tables]
  apply List.map_congr_left
  intro table hmem
  rw [seenAt, (hgrid table hmem).seen_eq_self hrows hcolumns]
  rfl

/-- Where no batch is chosen to fail, all tables are placed, each with what can be seen of
its texts, and nothing but their headers is noted. -/
theorem exists_yields_insertFrom (completed : Nat) (hid : tracked.state.id = id)
    (hspared : tracked.state.failAt = none) (hlines : IsLines text)
    (helements : tracked.state.elements = before ++ paragraphs text ++ after)
    (hgrid : ∀ table ∈ tables, table.table.IsGrid)
    (hdescends : DescendsIn tables (stopOf before) text) :
    let seen := tables.map tracked.state.seenAt
    ∃ report records, Yields (insertFrom client id completed tables) tracked report
        (tracked.reach (seen.map fun table => table.table.batches).sum
          ⟨placed before text after seen, tracked.state.styles ++ records⟩) ∧
      NotesBold records (seen.flatMap fun table => table.table.headerCells) := by
  -- From its anchor on, what a table has moved is no concern of the tables that follow.
  induction tables generalizing text after tracked completed with
  | nil =>
      refine ⟨{}, [], ?_, notesBold_nil rfl⟩
      rw [List.map_nil, placed, ← helements, List.append_nil]
      have hsame : tracked.reach 0 ⟨tracked.state.elements, tracked.state.styles⟩ = tracked :=
        tracked.reach_zero
      exact hsame.symm ▸ yields_pure _
  | cons table rest ih =>
      obtain ⟨offset, hplace, hanchor, hoffset⟩ := hdescends.exists_offset
      have hgrids := hgrid table List.mem_cons_self
      obtain ⟨records, hbold, hadvances⟩ :=
        exists_advances_insertTable hid hgrids hlines helements hanchor hoffset
      obtain ⟨report, hfirst⟩ := hadvances.completes fun index _ => not_chosen hspared index
      rw [stages_getLastD (hgrids.seen _) hbold, length_stages _ _ hbold] at hfirst
      obtain ⟨others, more, hrest, hmore⟩ := @ih
        (tracked.reach _ ⟨_, tracked.state.styles ++ records⟩) _ _ (completed + 1) hid hspared
        (isLines_append_lineEnd _) rfl (fun other hmem => hgrid other (List.mem_cons_of_mem _ hmem))
        (hdescends.tail hanchor hoffset)
      rw [Tracked.reach_reach] at hrest
      refine ⟨report.add others, records ++ more, ?_, hbold.append hmore⟩
      rw [List.map_cons, @placed_cons before (tracked.state.seenAt table) _ hplace,
        ← List.append_assoc]
      exact (hfirst.tryCatch _).bind (hrest.bind (yields_pure _))

/-- The tables stand in the order of their anchors. -/
theorem tablesOf_placed (before : List Element) (text : Text) (after : List Element)
    (tables : List AnchoredTable) :
    tablesOf (placed before text after tables) =
      tablesOf before ++ (tables.reverse.map fun table => table.table.cells) ++ tablesOf after := by
  induction tables generalizing text after with
  | nil => simp [placed]
  | cons table rest ih => simp [placed, ih]

/-- Every anchor adds one line end to the text. -/
theorem textOf_placed (hlines : IsLines text) (hdescends : DescendsIn tables (stopOf before) text) :
    textOf (placed before text after tables) =
      textOf before ++ withLineEnds (tables.map AnchoredTable.anchor) (stopOf before) text ++
        textOf after := by
  induction tables generalizing text after with
  | nil =>
      rw [List.map_nil, withLineEnds_eq_self fun _ hmem => absurd hmem List.not_mem_nil]
      simp [placed, hlines.textOf_paragraphs]
  | cons table rest ih =>
      obtain ⟨offset, hplace, hanchor, hoffset⟩ := hdescends.exists_offset
      have hbelow : ∀ anchor ∈ rest.map AnchoredTable.anchor, anchor < stopOf before + offset := by
        intro anchor hmem
        obtain ⟨other, hother, rfl⟩ := List.mem_map.mp hmem
        rw [← hanchor]
        exact (List.pairwise_cons.mp hdescends.descending).1 other hother
      have hback : textOf (paragraphs (text.drop offset)) = text.drop offset :=
        (hlines.drop hoffset).textOf_paragraphs
      rw [placed, hplace, ih (isLines_append_lineEnd _) (hdescends.tail hanchor hoffset),
        List.map_cons, hanchor, withLineEnds_cons hoffset hbelow, textOf_table, textOf_append,
        hback]
      simp only [List.append_assoc]

end Descending

end DocPress
