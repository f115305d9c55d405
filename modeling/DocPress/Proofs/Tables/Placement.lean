import DocPress.Proofs.MemoryDocument.Drafting
import DocPress.Proofs.Tables.Insertion

/-!
# The tables of a compilation

A compilation gives every table the position of the empty line that holds its place, so
that the tables stand at increasing positions of the text. Whatever the order in which
they are handed over, they are inserted from the last one to the first, and the document
has them in the order of the source.
-/

namespace DocPress

open MemoryDocument

/-! ## Tables as they are compiled -/

namespace TableDescriptor

/-- A table with the anchor that it states. -/
def anchored (table : TableDescriptor) : AnchoredTable :=
  { anchor := table.anchor.getD 0, table }

theorem length_fitRow (columns : Nat) (row : List Text) :
    (fitRow columns row).length = columns := by
  simp only [fitRow, List.length_append, List.length_take, List.length_replicate]
  omega

/-- Every table of a document is compiled into a grid. -/
theorem isGrid_of_ofRows? {header : List (List Inline)} {rows : List (List (List Inline))}
    {table : TableDescriptor} (htable : ofRows? header rows = some table) : table.IsGrid := by
  unfold ofRows? at htable
  simp only at htable
  split at htable
  next => exact absurd htable (by simp)
  next hcolumns =>
    obtain rfl := Option.some.inj htable
    refine ⟨rfl, List.cons_ne_nil _ _, by simpa using Nat.pos_of_ne_zero hcolumns, ?_⟩
    intro row hmem
    obtain ⟨_, _, rfl⟩ := List.mem_map.mp hmem
    rw [length_fitRow]

end TableDescriptor

/-- The table of a block is anchored on the empty line that the block leaves for it, and is a
grid. -/
theorem Block.render_table {start : Int} {block : Block} {table : TableDescriptor}
    (htable : (block.render start).table = some table) :
    table.anchor = some start ∧ table.IsGrid ∧ (block.render start).text = ['\n'] := by
  unfold Block.render at *
  cases hkind : block.kind with
  | table =>
      simp only [hkind, renderTable] at *
      cases hrows : TableDescriptor.ofRows? block.header block.rows with
      | none => simp [hrows] at htable
      | some grid =>
          have hgrid := TableDescriptor.isGrid_of_ofRows? hrows
          simp only [hrows, Option.some.injEq] at htable ⊢
          subst htable
          exact ⟨rfl, ⟨hgrid.rows_eq, hgrid.cells_ne_nil, hgrid.columns_pos, hgrid.width⟩, trivial⟩
  | _ => simp [hkind, renderHeading, renderParagraph, renderList, renderCode, renderQuote,
      renderRule] at htable

theorem compile_cons_tables (start : Int) (block : Block) (rest : List Block) :
    (compile (block :: rest) start).tables =
      (block.render start).table.toList ++
        (compile rest (start + units (block.render start).text)).tables := by
  simp only [compile, renderBlocks, List.filterMap_cons]
  cases (block.render start).table with
  | none => rfl
  | some table => rfl

theorem le_compile_stop (blocks : List Block) (start : Int) :
    start ≤ (compile blocks start).stop := by
  change start ≤ start + (units (compile blocks start).text : Int)
  omega

/-- Every table of a compilation is a grid at a position of the text. -/
theorem compile_tables_anchored {start : Int} {blocks : List Block} {table : TableDescriptor}
    (hmem : table ∈ (compile blocks start).tables) :
    ∃ anchor, table.anchor = some anchor ∧ start ≤ anchor ∧ anchor < (compile blocks start).stop ∧
      table.IsGrid := by
  induction blocks generalizing start with
  | nil => exact absurd hmem List.not_mem_nil
  | cons block rest ih =>
      rw [compile_cons_tables] at hmem
      rw [compile_cons_stop]
      rcases List.mem_append.mp hmem with hmem | hmem
      · obtain ⟨hanchor, hgrid, htext⟩ := Block.render_table (Option.mem_toList.mp hmem)
        have hstop := le_compile_stop rest (start + units (block.render start).text)
        rw [htext, units_lineEnd] at *
        exact ⟨start, hanchor, Int.le_refl _, by omega, hgrid⟩
      · obtain ⟨anchor, hanchor, hlow, hhigh, hgrid⟩ := ih hmem
        exact ⟨anchor, hanchor, by omega, hhigh, hgrid⟩

theorem anchored_anchor {table : TableDescriptor} {anchor : Int}
    (hanchor : table.anchor = some anchor) : table.anchored.anchor = anchor := by
  rw [TableDescriptor.anchored, hanchor, Option.getD_some]

/-- The tables of a compilation stand in the order of their positions. -/
theorem compile_tables_ascending (start : Int) (blocks : List Block) :
    (compile blocks start).tables.Pairwise fun first second =>
      first.anchored.anchor < second.anchored.anchor := by
  induction blocks generalizing start with
  | nil => exact List.Pairwise.nil
  | cons block rest ih =>
      rw [compile_cons_tables]
      refine List.pairwise_append.mpr ⟨?_, ih _, ?_⟩
      · cases (block.render start).table with
        | none => exact List.Pairwise.nil
        | some table => exact List.pairwise_singleton _ _
      · intro first hfirst second hsecond
        obtain ⟨hanchor, _, htext⟩ := Block.render_table (Option.mem_toList.mp hfirst)
        obtain ⟨anchor, hsecond, hlow, _, _⟩ := compile_tables_anchored hsecond
        rw [htext, units_lineEnd] at hlow
        rw [anchored_anchor hanchor, anchored_anchor hsecond]
        omega

theorem exists_anchor_of_mem_compile {start : Int} {blocks : List Block} {table : TableDescriptor}
    (hmem : table ∈ (compile blocks start).tables) : ∃ anchor, table.anchor = some anchor := by
  obtain ⟨anchor, hanchor, _⟩ := compile_tables_anchored hmem
  exact ⟨anchor, hanchor⟩

/-- Where all characters are single units, the anchors are places of the text. -/
theorem compile_tables_within {start : Int} {blocks : List Block} {table : TableDescriptor}
    (hplane : ∀ c ∈ (compile blocks start).text, c.toNat < 0x10000)
    (hmem : table ∈ (compile blocks start).tables) :
    start ≤ table.anchored.anchor ∧
      table.anchored.anchor < start + (compile blocks start).text.length := by
  obtain ⟨anchor, hanchor, hlow, hhigh, _⟩ := compile_tables_anchored hmem
  change anchor < start + (units (compile blocks start).text : Int) at hhigh
  rw [units_eq_length hplane] at hhigh
  rw [anchored_anchor hanchor]
  exact ⟨hlow, hhigh⟩

/-! ## The order of insertion -/

/-- Tables with anchors are accepted for insertion. -/
theorem ofTables_eq {tables : List TableDescriptor}
    (htables : ∀ table ∈ tables, ∃ anchor, table.anchor = some anchor) :
    AnchoredTable.ofTables tables = .ok (tables.map TableDescriptor.anchored) := by
  induction tables with
  | nil => rfl
  | cons table rest ih =>
      obtain ⟨anchor, hanchor⟩ := htables table List.mem_cons_self
      have hrest := ih fun other hmem => htables other (List.mem_cons_of_mem _ hmem)
      rw [AnchoredTable.ofTables] at *
      rw [List.mapM_cons, hrest]
      simp only [hanchor, List.map_cons, TableDescriptor.anchored, Option.getD_some]
      rfl

/-- No table is inserted before one with a larger anchor. -/
theorem lastFirst_descends (tables : List AnchoredTable) :
    (AnchoredTable.lastFirst tables).Pairwise fun first second =>
      second.anchor ≤ first.anchor := by
  have hsorted : (AnchoredTable.lastFirst tables).Pairwise fun first second =>
      decide (second.anchor ≤ first.anchor) := by
    apply List.pairwise_mergeSort
    · intro first second third hfirst hsecond
      rw [decide_eq_true_eq] at *
      omega
    · intro first second
      rw [Bool.or_eq_true, decide_eq_true_eq, decide_eq_true_eq]
      omega
  exact hsorted.imp of_decide_eq_true

/-- Tables with distinct anchors are put in one order, however they are given. -/
theorem lastFirst_eq_reverse {tables others : List AnchoredTable} (hperm : tables.Perm others)
    (hascending : others.Pairwise fun first second => first.anchor < second.anchor) :
    AnchoredTable.lastFirst tables = others.reverse := by
  have hsorted : (AnchoredTable.lastFirst tables).Perm others.reverse :=
    ((List.mergeSort_perm _ _).trans hperm).trans (List.reverse_perm others).symm
  -- Sorting promises a weak order only; it is strict because the anchors are distinct.
  have hdistinct : (AnchoredTable.lastFirst tables).Pairwise fun first second =>
      first.anchor ≠ second.anchor := by
    have hothers : others.reverse.Pairwise fun first second => first.anchor ≠ second.anchor :=
      List.pairwise_reverse.mpr (hascending.imp fun hlt => (Int.ne_of_lt hlt).symm)
    exact hsorted.symm.pairwise hothers fun hne => hne.symm
  have hdescending : (AnchoredTable.lastFirst tables).Pairwise fun first second =>
      second.anchor < first.anchor := by
    refine ((lastFirst_descends tables).and hdistinct).imp ?_
    rintro first second ⟨hle, hne⟩
    omega
  refine hsorted.eq_of_pairwise ?_ hdescending (List.pairwise_reverse.mpr hascending)
  intro first second _ _ hfirst hsecond
  omega

/-! ## Anchors in the paragraph that took the text -/

/-- The compiled tables, from the last one to the first, have their anchors in the
paragraph that took the text. -/
theorem descendsIn_compile_tables {line : Text} {offset : Nat} {position start : Int}
    {blocks : List Block} (hstart : start = position + offset) (hoffset : offset < line.length)
    (hplane : ∀ c ∈ (compile blocks start).text, c.toNat < 0x10000) :
    DescendsIn ((compile blocks start).tables.map TableDescriptor.anchored).reverse position
      (splice offset (compile blocks start).text line) where
  descending :=
    List.pairwise_reverse.mpr (List.pairwise_map.mpr (compile_tables_ascending start blocks))
  low := by
    intro table hmem
    obtain ⟨table, htable, rfl⟩ := List.mem_map.mp (List.mem_reverse.mp hmem)
    have := (compile_tables_within hplane htable).1
    omega
  high := by
    intro table hmem
    obtain ⟨table, htable, rfl⟩ := List.mem_map.mp (List.mem_reverse.mp hmem)
    have := (compile_tables_within hplane htable).2
    rw [length_splice hoffset]
    omega

/-- Where all tables have anchors none is lost. -/
theorem filterMap_anchor_eq {tables : List TableDescriptor}
    (htables : ∀ table ∈ tables, ∃ anchor, table.anchor = some anchor) :
    tables.filterMap TableDescriptor.anchor = tables.map fun table => table.anchored.anchor := by
  induction tables with
  | nil => rfl
  | cons table rest ih =>
      obtain ⟨anchor, hanchor⟩ := htables table List.mem_cons_self
      rw [List.filterMap_cons_some hanchor, List.map_cons, anchored_anchor hanchor,
        ih fun other hmem => htables other (List.mem_cons_of_mem _ hmem)]

/-- The line ends that the compiled tables add lie in the compiled text. -/
theorem withLineEnds_compile {line : Text} {offset : Nat} {position start : Int}
    {blocks : List Block} (hstart : start = position + offset) (hoffset : offset < line.length)
    (hplane : ∀ c ∈ (compile blocks start).text, c.toNat < 0x10000) :
    withLineEnds (((compile blocks start).tables.map TableDescriptor.anchored).reverse.map
        AnchoredTable.anchor) position (splice offset (compile blocks start).text line) =
      line.take offset ++
        withLineEnds ((compile blocks start).tables.filterMap TableDescriptor.anchor) start
          (compile blocks start).text ++
        line.drop offset := by
  have hinside : ∀ anchor ∈ (compile blocks start).tables.map fun table => table.anchored.anchor,
      position + offset ≤ anchor ∧
        anchor < position + offset + (compile blocks start).text.length := by
    intro anchor hmem
    obtain ⟨table, htable, rfl⟩ := List.mem_map.mp hmem
    rw [← hstart]
    exact compile_tables_within hplane htable
  have hreverse : ((compile blocks start).tables.map TableDescriptor.anchored).reverse.map
      AnchoredTable.anchor =
      ((compile blocks start).tables.map fun table => table.anchored.anchor).reverse := by
    rw [List.map_reverse, List.map_map]
    rfl
  rw [filterMap_anchor_eq fun table hmem => exists_anchor_of_mem_compile hmem, hreverse,
    withLineEnds_reverse, withLineEnds_splice hoffset hinside, hstart]

/-! ## The insertion -/

section Insertion

variable {id : Option String} {tracked : Tracked MemoryDocument} {before after : List Element}
  {line : Text} {offset : Nat} {blocks : List Block} {start : Int} {tables : List TableDescriptor}

/-- However they are given, the tables of a compilation are inserted from the last one to the
first. -/
theorem insertTables_eq {σ : Type} (client : Client σ) (id : Option String)
    (hperm : tables.Perm (compile blocks start).tables) :
    Tracked.insertTables client id tables =
      Tracked.insertFrom client id 0
        ((compile blocks start).tables.map TableDescriptor.anchored).reverse := by
  have hanchors : ∀ table ∈ tables, ∃ anchor, table.anchor = some anchor :=
    fun table hmem => exists_anchor_of_mem_compile (hperm.mem_iff.mp hmem)
  have hreverse := lastFirst_eq_reverse (hperm.map TableDescriptor.anchored)
    (List.pairwise_map.mpr (compile_tables_ascending start blocks))
  rw [Tracked.insertTables, ofTables_eq hanchors, ← hreverse]
  exact pure_bind _ _

/-- Compiled tables are grids, however they are ordered. -/
theorem isGrid_of_mem_anchored {table : AnchoredTable}
    (hmem : table ∈ ((compile blocks start).tables.map TableDescriptor.anchored).reverse) :
    table.table.IsGrid := by
  obtain ⟨table, htable, rfl⟩ := List.mem_map.mp (List.mem_reverse.mp hmem)
  obtain ⟨_, _, _, _, hgrid⟩ := compile_tables_anchored htable
  exact hgrid

/-- Placing tables and hiding cells of them can be done in either order. -/
theorem map_seenAt_anchored (document : MemoryDocument) (tables : List TableDescriptor) :
    (tables.map TableDescriptor.anchored).reverse.map document.seenAt =
      ((tables.map document.seen).map TableDescriptor.anchored).reverse := by
  rw [List.map_reverse, List.map_map, List.map_map]
  rfl

/-- A document that hides nothing shows compiled tables as they are. -/
theorem map_seen_eq_self {document : MemoryDocument} (hrows : document.visibleRows = none)
    (hcolumns : document.visibleColumns = none) :
    (compile blocks start).tables.map document.seen = (compile blocks start).tables := by
  conv_rhs => rw [← List.map_id (compile blocks start).tables]
  apply List.map_congr_left
  intro table hmem
  obtain ⟨_, _, _, _, hgrid⟩ := compile_tables_anchored hmem
  exact hgrid.seen_eq_self hrows hcolumns

theorem sum_batches_anchored (tables : List TableDescriptor) :
    ((tables.map TableDescriptor.anchored).reverse.map fun table => table.table.batches).sum =
      (tables.map TableDescriptor.batches).sum := by
  rw [List.map_reverse, List.sum_reverse, List.map_map]
  rfl

/-- Where the text of a compilation is in a document and no batch was chosen to fail, the
tables are placed in it. -/
theorem exists_yields_insertTables (hid : tracked.state.id = id)
    (hspared : tracked.state.failAt = none) (hline : IsParagraph line)
    (hstart : start = stopOf before + offset) (hoffset : offset < line.length)
    (hplane : ∀ c ∈ (compile blocks start).text, c.toNat < 0x10000)
    (hperm : tables.Perm (compile blocks start).tables)
    (helements : tracked.state.elements =
      before ++ paragraphs (splice offset (compile blocks start).text line) ++ after) :
    let seen := (compile blocks start).tables.map tracked.state.seen
    ∃ report records, Yields (Tracked.insertTables client id tables) tracked report
        (tracked.reach (seen.map TableDescriptor.batches).sum
          ⟨placed before (splice offset (compile blocks start).text line) after
            (seen.map TableDescriptor.anchored).reverse, tracked.state.styles ++ records⟩) ∧
      NotesBold records (seen.reverse.flatMap TableDescriptor.headerCells) := by
  intro seen
  obtain ⟨report, records, hinsert, hbold⟩ := exists_yields_insertFrom 0 hid hspared
    (isLines_splice hline hoffset _) helements (fun _ hmem => isGrid_of_mem_anchored hmem)
    (descendsIn_compile_tables hstart hoffset hplane)
  rw [map_seenAt_anchored] at hinsert hbold
  rw [sum_batches_anchored] at hinsert
  rw [← List.map_reverse, List.flatMap_map] at hbold
  refine ⟨report, records, ?_, hbold⟩
  rw [insertTables_eq client id hperm]
  exact hinsert

/-- A reliable document takes the requests of a compilation and then all of its tables. -/
theorem MemoryDocument.Reliable.exists_yields_compiled {document : MemoryDocument}
    (hreliable : document.Reliable id)
    (helements : document.elements = before ++ .paragraph line :: after)
    (hparagraphs : ∀ text, .paragraph text ∈ document.elements → IsParagraph text)
    (hstart : start = stopOf before + offset) (hoffset : offset < line.length)
    (hplane : ∀ c ∈ (compile blocks start).text, c.toNat < 0x10000)
    (hperm : tables.Perm (compile blocks start).tables) (generation : Int) :
    let result := compile blocks start
    ∃ reply drafted report records,
      Yields (client.mutate id result.requests) document reply drafted ∧ drafted.Reliable id ∧
      drafted.elements = before ++ paragraphs (splice offset result.text line) ++ after ∧
      drafted.mutations = document.mutations + 1 ∧
      Yields (Tracked.insertTables client id tables) ⟨generation, drafted⟩ report
        (Tracked.reach ⟨generation, drafted⟩ (result.tables.map TableDescriptor.batches).sum
          ⟨placed before (splice offset result.text line) after
            (result.tables.map TableDescriptor.anchored).reverse, drafted.styles ++ records⟩) ∧
      NotesBold records (result.tables.reverse.flatMap TableDescriptor.headerCells) := by
  intro result
  have hline : IsParagraph line := hparagraphs line (by rw [helements]; simp)
  obtain ⟨reply, drafted, hmutate, hreliable, hdrafted, _, hcount⟩ :=
    hreliable.exists_yields_mutate
      (performs_requests helements hparagraphs hstart hoffset hplane)
  obtain ⟨report, records, hinsert, hbold⟩ := @exists_yields_insertTables id ⟨generation, drafted⟩
    before after line offset blocks start tables hreliable.id_eq hreliable.failAt_eq hline hstart
    hoffset hplane hperm hdrafted
  have hseen : result.tables.map drafted.seen = result.tables :=
    map_seen_eq_self hreliable.visibleRows_eq hreliable.visibleColumns_eq
  rw [hseen] at hinsert hbold
  exact ⟨reply, drafted, report, records, hmutate, hreliable, hdrafted, hcount, hinsert, hbold⟩

end Insertion

/-- When blocks are compiled for a position inside a paragraph, their requests are sent,
and their tables are then inserted, whatever the order in which these are given, then
the document has the tables of the source, in order and with all their texts, between
the tables that stood before and after the position; every header text is noted bold
once, and no other style is noted; and the text is the old one with the compiled text at
the position, and with one line end more before the line that held the place of each
table. -/
theorem insertTables_places_compiled_tables {document : MemoryDocument} {id : Option String}
    {before after : List Element} {line : Text} {offset : Nat} {blocks : List Block} {start : Int}
    {tables : List TableDescriptor} (hreliable : document.Reliable id)
    (helements : document.elements = before ++ .paragraph line :: after)
    (hparagraphs : ∀ text, .paragraph text ∈ document.elements → IsParagraph text)
    (hstart : start = stopOf before + offset) (hoffset : offset < line.length)
    (hplane : ∀ c ∈ (compile blocks start).text, c.toNat < 0x10000)
    (hperm : tables.Perm (compile blocks start).tables) (generation : Int) :
    let result := compile blocks start
    ∃ reply drafted report published records,
      Yields (client.mutate id result.requests) document reply drafted ∧
      Yields (Tracked.insertTables client id tables) ⟨generation, drafted⟩ report published ∧
      published.state.tables =
        tablesOf before ++ result.tables.map TableDescriptor.cells ++ tablesOf after ∧
      published.state.styles = drafted.styles ++ records ∧
      NotesBold records (result.tables.reverse.flatMap TableDescriptor.headerCells) ∧
      published.state.text = textOf before ++
        (line.take offset ++
          withLineEnds (result.tables.filterMap TableDescriptor.anchor) start result.text ++
          line.drop offset) ++ textOf after := by
  intro result
  have hline : IsParagraph line := hparagraphs line (by rw [helements]; simp)
  obtain ⟨reply, drafted, report, records, hmutate, _, _, _, hinsert, hbold⟩ :=
    hreliable.exists_yields_compiled helements hparagraphs hstart hoffset hplane hperm generation
  refine ⟨reply, drafted, report, _, records, hmutate, hinsert, ?_, rfl, hbold, ?_⟩
  · change tablesOf (placed _ _ _ _) = _
    rw [tablesOf_placed, List.reverse_reverse, List.map_map]
    rfl
  · change textOf (placed _ _ _ _) = _
    rw [textOf_placed (isLines_splice hline hoffset _)
      (descendsIn_compile_tables hstart hoffset hplane), withLineEnds_compile hstart hoffset hplane]

/-- A document with a table before and a table after its second paragraph. -/
def framedDocument : MemoryDocument :=
  { id := some "d"
    title := none
    elements := [.paragraph ['a', '\n'], .table [[['p']]], .paragraph ['b', 'c', '\n'],
      .table [[['q']]], .paragraph ['\n']] }

theorem framedDocument_isParagraph {text : Text}
    (hmem : .paragraph text ∈ framedDocument.elements) :
    IsParagraph text := by
  simp only [framedDocument, List.mem_cons, Element.paragraph.injEq, reduceCtorEq, false_or,
    or_false, List.not_mem_nil] at hmem
  rcases hmem with rfl | rfl | rfl
  · exact ⟨['a'], rfl, by decide⟩
  · exact ⟨['b', 'c'], rfl, by decide⟩
  · exact ⟨[], rfl, by decide⟩

/-- Two tables with a paragraph between them. -/
def tableBlocks : List Block :=
  [{ kind := .table
     header := [[{ kind := .text, text := ['H'] }], []]
     rows := [[[], [{ kind := .text, text := ['x'] }]]] },
    { kind := .paragraph, content := [{ kind := .text, text := ['m'] }] },
    { kind := .table, header := [[{ kind := .text, text := ['K'] }]] }]

/-- Two tables, given in the wrong order, go between the tables of a document. -/
theorem insertTables_places_tableBlocks :
    ∃ reply drafted report published records,
      Yields (client.mutate (some "d") (compile tableBlocks 10).requests) framedDocument reply
        drafted ∧
      Yields (Tracked.insertTables client (some "d") (compile tableBlocks 10).tables.reverse)
        ⟨0, drafted⟩ report published ∧
      published.state.tables = [[[['p']]], [[['H'], []], [[], ['x']]], [[['K']]], [[['q']]]] ∧
      published.state.styles = drafted.styles ++ records ∧
      records.map StyleRecord.text = [['K'], ['H']] ∧
      published.state.text = "a\nb\n\nm\n\n\nc\n\n".toList := by
  have hreliable : framedDocument.Reliable (some "d") := ⟨rfl, rfl, rfl, rfl⟩
  have htext : (compile tableBlocks 10).text = ['\n', 'm', '\n', '\n'] := by decide +kernel
  have hplane : ∀ c ∈ (compile tableBlocks 10).text, c.toNat < 0x10000 := by
    simp [htext]
  have hanchors : (compile tableBlocks 10).tables.filterMap TableDescriptor.anchor = [10, 13] := by
    decide +kernel
  have hcells : (compile tableBlocks 10).tables.map TableDescriptor.cells =
      [[[['H'], []], [[], ['x']]], [[['K']]]] := by decide +kernel
  have hheaders : ((compile tableBlocks 10).tables.reverse.flatMap
      TableDescriptor.headerCells).filter (fun text => !text.isEmpty) = [['K'], ['H']] := by
    decide +kernel
  obtain ⟨reply, drafted, report, published, records, hdraft, hinsert, htables, hstyles, hbold,
      hpublished⟩ :=
    @insertTables_places_compiled_tables framedDocument (some "d")
      [.paragraph ['a', '\n'], .table [[['p']]]] [.table [[['q']]], .paragraph ['\n']]
      ['b', 'c', '\n'] 1 tableBlocks 10 _ hreliable rfl
      (fun _ hmem => framedDocument_isParagraph hmem) rfl (by decide) hplane
      (List.reverse_perm _) 0
  refine ⟨reply, drafted, report, published, records, hdraft, hinsert, ?_, hstyles, ?_, ?_⟩
  · rw [htables, hcells]
    rfl
  · rw [hbold.text_eq, hheaders]
  · rw [hpublished, hanchors, htext]
    decide

end DocPress
