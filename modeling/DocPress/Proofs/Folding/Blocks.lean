import DocPress.Proofs.Folding.Inline
import DocPress.Proofs.Text.Integers

/-!
# Blocks as tokens

Blocks are written as a stream of tokens: a leaf as one token, a container as a pair of
tokens around what is inside, inline content as one token with tokens in it. Folding the
stream gives the blocks back. A container is read up to the first token with the name that
closes it, so that nothing inside may leave such a token behind, containers of the same
name least of all.
-/

namespace DocPress

/-- Inline content as one token. -/
def Token.inline (children : List Token) : Token :=
  { name := "inline", children }

namespace Block

/-- The names that folding gives a meaning to among block tokens and blocks. -/
def knownNames : List String :=
  ["heading", "paragraph", "list", "table", "code", "blockquote", "hr", "bullet_list",
    "ordered_list", "fence", "code_block"]

/-- Whether a block is built from the fields that its kind has, and from well-formed blocks
and inline nodes. The depth of a heading is a number that can be read, and a block of an
unknown kind has text or children, but not both. -/
inductive WellFormed : Block → Prop
  | heading {depth : Int} {content : List Inline}
      (hdepth : (natText depth.natAbs).length ≤ maxIntegerDigits)
      (hcontent : ∀ node ∈ content, node.WellFormed) :
      WellFormed { kind := .heading, depth, content }
  | paragraph {content : List Inline} (hcontent : ∀ node ∈ content, node.WellFormed) :
      WellFormed { kind := .paragraph, content }
  | list (ordered : Bool) {items : List (List Block)}
      (hitems : ∀ item ∈ items, ∀ block ∈ item, WellFormed block) :
      WellFormed { kind := .list, ordered, items }
  | table {header : List (List Inline)} {rows : List (List (List Inline))}
      (hheader : ∀ cell ∈ header, ∀ node ∈ cell, node.WellFormed)
      (hrows : ∀ row ∈ rows, ∀ cell ∈ row, ∀ node ∈ cell, node.WellFormed) :
      WellFormed { kind := .table, header, rows }
  | code (text : Text) : WellFormed { kind := .code, text }
  | quote {children : List Block} (hchildren : ∀ block ∈ children, WellFormed block) :
      WellFormed { kind := .quote, children }
  | rule : WellFormed { kind := .rule }
  | other {name : String} {text : Text} {children : List Block} (hname : name ∉ knownNames)
      (hopen : occursIn Token.openEnding name.toList = false)
      (hclose : occursIn Token.closeEnding name.toList = false)
      (hone : text = [] ∨ children = []) (hchildren : ∀ block ∈ children, WellFormed block) :
      WellFormed { kind := .other name, text, children }

end Block

section Writing

variable (asLeaf : String → Bool)

/-- The tokens of a cell of a table. -/
def cellTokens (name : String) (cell : List Inline) : List Token :=
  Token.wrap name [.inline (inlineTokens asLeaf cell)]

/-- The tokens of a row of a table, whose cells have the given name. -/
def rowTokens (name : String) (row : List (List Inline)) : List Token :=
  Token.wrap "tr" (row.flatMap (cellTokens asLeaf name))

/-- The tokens inside a table: those of its header, and those of its body. -/
def tableTokens (header : List (List Inline)) (rows : List (List (List Inline))) : List Token :=
  Token.wrap "thead" (rowTokens asLeaf "th" header) ++
    Token.wrap "tbody" (rows.flatMap (rowTokens asLeaf "td"))

mutual

/-- The tokens of a block. -/
def Block.tokens : Block → List Token
  | ⟨kind, content, depth, ordered, items, header, rows, text, children⟩ =>
      match kind with
      | .heading =>
          Token.wrap "heading" [.inline (inlineTokens asLeaf content)] ('h' :: intText depth)
      | .paragraph => Token.wrap "paragraph" [.inline (inlineTokens asLeaf content)]
      | .list => Token.wrap (if ordered then "ordered_list" else "bullet_list") (itemsTokens items)
      | .table => Token.wrap "table" (tableTokens asLeaf header rows)
      | .code => [.leaf "fence" text]
      | .quote => Token.wrap "blockquote" (blocksTokens children)
      | .rule => [.leaf "hr"]
      | .other name => Token.foreign asLeaf name text (blocksTokens children)

/-- The tokens of blocks, one after the other. -/
def blocksTokens : List Block → List Token
  | [] => []
  | block :: rest => block.tokens ++ blocksTokens rest

/-- The tokens of the items of a list. -/
def itemsTokens : List (List Block) → List Token
  | [] => []
  | item :: rest => Token.wrap "list_item" (blocksTokens item) ++ itemsTokens rest

end

end Writing

/-! ## Tables -/

namespace TableRows

/-- Whether tokens bring the rows of a table from one state to another, whatever
follows. -/
def Leads (tokens : List Token) (before after : TableRows) : Prop :=
  ∀ (position : Nat) (rest : List Token),
    before.run position (tokens ++ rest) = after.run (position + tokens.length) rest

variable {before between after : TableRows}

theorem Leads.append {first second : List Token} (hfirst : Leads first before between)
    (hsecond : Leads second between after) : Leads (first ++ second) before after := by
  intro position rest
  rw [List.append_assoc, hfirst, hsecond, List.length_append, Nat.add_assoc]

theorem leads_token {token : Token} (htoken : token.name ≠ "table_close")
    (hstep : before.step token = after) : Leads [token] before after := by
  intro position rest
  rw [List.singleton_append, run, if_neg htoken, hstep]
  rfl

/-- A container leads over its opening token, what is inside, and its closing token. -/
theorem Leads.wrap {name : String} {inside : List Token} {first last : TableRows}
    (hinside : Leads inside first last) (hname : name ≠ "table")
    (hfirst : before.step { name := name ++ "_open", nesting := 1 } = first)
    (hlast : last.step (Token.closes name) = after) :
    Leads (Token.wrap name inside) before after := by
  have hclose : (Token.closes name).name ≠ "table_close" :=
    fun heq => hname ((String.append_left_inj "_close").mp heq)
  have hopen := Token.neverCloses_open name "table"
  exact ((leads_token hopen hfirst).append hinside).append (leads_token hclose hlast)

section Rows

variable {asLeaf : String → Bool} {name : String}

/-- Each cell of a row is added to those read before. -/
theorem leads_cells (hname : name = "th" ∨ name = "td") {row : List (List Inline)}
    (hrow : ∀ cell ∈ row, ∀ node ∈ cell, node.WellFormed) (table : TableRows) :
    Leads (row.flatMap (cellTokens asLeaf name)) table
      { table with cells := table.cells ++ row } := by
  induction row generalizing table with
  | nil => simp [Leads]
  | cons cell rest ih =>
      have hcell := Inline.ofTokens_inlineTokens (hrow cell List.mem_cons_self) asLeaf
      have hinline : Leads [Token.inline (inlineTokens asLeaf cell)] table
          { table with cells := table.cells ++ [cell] } :=
        leads_token (by simp [Token.inline]) (by simp [Token.inline, step, hcell])
      have hwrap : Leads (cellTokens asLeaf name cell) table
          { table with cells := table.cells ++ [cell] } := by
        rcases hname with rfl | rfl
        · exact hinline.wrap (by decide) rfl rfl
        · exact hinline.wrap (by decide) rfl rfl
      have hrest := ih (fun other hmem => hrow other (List.mem_cons_of_mem _ hmem))
        { table with cells := table.cells ++ [cell] }
      have happend := hwrap.append hrest
      rw [List.append_assoc, List.singleton_append] at happend
      exact happend

theorem leads_header {header : List (List Inline)}
    (hheader : ∀ cell ∈ header, ∀ node ∈ cell, node.WellFormed) :
    Leads (Token.wrap "thead" (rowTokens asLeaf "th" header)) {} { header } := by
  have hrow : Leads (rowTokens asLeaf "th" header) { inHead := true }
      { header, inHead := true } :=
    (leads_cells (.inl rfl) hheader _).wrap (by decide) rfl rfl
  exact hrow.wrap (by decide) rfl rfl

/-- Each row of the body is added to those read before. -/
theorem leads_rows {rows : List (List (List Inline))}
    (hrows : ∀ row ∈ rows, ∀ cell ∈ row, ∀ node ∈ cell, node.WellFormed)
    (header : List (List Inline)) (before : List (List (List Inline))) :
    Leads (rows.flatMap (rowTokens asLeaf "td")) { header, rows := before }
      { header, rows := before ++ rows } := by
  induction rows generalizing before with
  | nil => simp [Leads]
  | cons row rest ih =>
      have hrow : Leads (rowTokens asLeaf "td" row) { header, rows := before }
          { header, rows := before ++ [row] } :=
        (leads_cells (.inr rfl) (hrows row List.mem_cons_self) _).wrap (by decide) rfl rfl
      have happend := hrow.append
        (ih (fun other hmem => hrows other (List.mem_cons_of_mem _ hmem)) (before ++ [row]))
      rw [List.append_assoc, List.singleton_append] at happend
      exact happend

/-- The tokens of a table lead to its header and its rows. -/
theorem leads_table {header : List (List Inline)} {rows : List (List (List Inline))}
    (hheader : ∀ cell ∈ header, ∀ node ∈ cell, node.WellFormed)
    (hrows : ∀ row ∈ rows, ∀ cell ∈ row, ∀ node ∈ cell, node.WellFormed) :
    Leads (tableTokens asLeaf header rows) {} { header, rows } :=
  (leads_header hheader).append ((leads_rows hrows header []).wrap (by decide) rfl rfl)

end Rows

end TableRows

/-! ## Blocks -/

/-- Whether a token, with others after it, is read as a block, and reading goes on right
after these, whatever follows. -/
def ReadsAs (token : Token) (inside : List Token) (block : Block) : Prop :=
  ∀ (position : Nat) (rest : List Token),
    (foldBlock token ⟨position, inside ++ rest⟩).value = some block ∧
      (foldBlock token ⟨position, inside ++ rest⟩).next = ⟨position + inside.length, rest⟩

/-- Whether a container is looked for by a name that closes one. -/
def ClosesBy (close : Option String) : Prop :=
  ∀ name, close = some name → ¬ Token.NeverCloses name

/-- Whether tokens are read as blocks inside any container, whatever follows. -/
def Supplies (tokens : List Token) (blocks : List Block) : Prop :=
  ∀ (close : Option String), ClosesBy close → ∀ (position : Nat) (rest : List Token),
    (foldBlocks close ⟨position, tokens ++ rest⟩).value =
        blocks ++ (foldBlocks close ⟨position + tokens.length, rest⟩).value ∧
      (foldBlocks close ⟨position, tokens ++ rest⟩).next =
        (foldBlocks close ⟨position + tokens.length, rest⟩).next

theorem supplies_nil : Supplies [] [] := fun _ _ _ _ => ⟨rfl, rfl⟩

/-- Tokens that follow each other supply the blocks of both. -/
theorem Supplies.append {first second : List Token} {blocks others : List Block}
    (hfirst : Supplies first blocks) (hsecond : Supplies second others) :
    Supplies (first ++ second) (blocks ++ others) := by
  intro close hclose position rest
  obtain ⟨hvalue, hnext⟩ := hfirst close hclose position (second ++ rest)
  obtain ⟨hlater, hlast⟩ := hsecond close hclose (position + first.length) rest
  rw [List.append_assoc, List.append_assoc, List.length_append, ← Nat.add_assoc]
  exact ⟨hvalue.trans (congrArg _ hlater), hnext.trans hlast⟩

/-- A token that closes nothing is read as its block wherever it stands. -/
theorem ReadsAs.supplies {token : Token} {inside : List Token} {block : Block}
    (hreads : ReadsAs token inside block) (htoken : Token.NeverCloses token.name) :
    Supplies (token :: inside) [block] := by
  intro close hclose position rest
  have hother : ¬ close = some token.name := fun heq => hclose _ heq htoken
  obtain ⟨hvalue, hnext⟩ := hreads (position + 1) rest
  rw [List.cons_append, foldBlocks, if_neg hother]
  dsimp only
  rw [hvalue, hnext, List.length_cons, Nat.add_assoc, Nat.add_comm 1]
  exact ⟨rfl, rfl⟩

/-- Blocks inside a container are read up to the token that closes it. -/
theorem Supplies.closes {tokens : List Token} {blocks : List Block}
    (hsupplies : Supplies tokens blocks) {name close : String} (hclose : name ++ "_close" = close)
    (position : Nat) (rest : List Token) :
    let fold := foldBlocks (some close) ⟨position, tokens ++ Token.closes name :: rest⟩
    fold.value = blocks ∧ fold.next = ⟨position + tokens.length + 1, rest⟩ := by
  have hcloses : ClosesBy (some close) := by
    rintro _ ⟨⟩ hnever
    exact hnever name hclose.symm
  have hname : some close = some (Token.closes name).name := congrArg some hclose.symm
  obtain ⟨hvalue, hnext⟩ := hsupplies _ hcloses position (Token.closes name :: rest)
  rw [foldBlocks, if_pos hname] at hvalue hnext
  exact ⟨hvalue.trans (List.append_nil _), hnext⟩

/-- The items of a list are read up to the token that closes the list. -/
theorem foldItems_closes {asLeaf : String → Bool} {items : List (List Block)}
    (hitems : ∀ item ∈ items, Supplies (blocksTokens asLeaf item) item) {name close : String}
    (hclose : name ++ "_close" = close) (position : Nat) (rest : List Token) :
    let fold := foldItems close
      ⟨position, itemsTokens asLeaf items ++ Token.closes name :: rest⟩
    fold.value = items ∧ fold.next = ⟨position + (itemsTokens asLeaf items).length + 1, rest⟩ := by
  -- An item ends at the first token that closes an item, so the next one begins there.
  induction items generalizing position with
  | nil =>
      have hname : (Token.closes name).name = close := hclose
      rw [itemsTokens, List.nil_append, foldItems, if_pos hname]
      exact ⟨rfl, rfl⟩
  | cons item others ih =>
      have hopen : "list_item" ++ "_open" = "list_item_open" := by decide
      have hother : ¬ "list_item" ++ "_open" = close :=
        hclose ▸ Token.neverCloses_open "list_item" name
      have hitem := (hitems item List.mem_cons_self).closes
        (by decide : "list_item" ++ "_close" = "list_item_close") (position + 1)
        (itemsTokens asLeaf others ++ Token.closes name :: rest)
      have hothers := ih (fun other hmem => hitems other (List.mem_cons_of_mem _ hmem))
        (position + 1 + (blocksTokens asLeaf item).length + 1)
      have htokens : itemsTokens asLeaf (item :: others) ++ Token.closes name :: rest =
          { name := "list_item" ++ "_open", nesting := 1 } ::
            (blocksTokens asLeaf item ++ Token.closes "list_item" ::
              (itemsTokens asLeaf others ++ Token.closes name :: rest)) := by
        simp [itemsTokens, Token.wrap]
      have hlength : position + (itemsTokens asLeaf (item :: others)).length + 1 =
          position + 1 + (blocksTokens asLeaf item).length + 1 +
            (itemsTokens asLeaf others).length + 1 := by
        simp only [itemsTokens, Token.wrap, List.length_append, List.length_cons, List.length_nil]
        omega
      dsimp only at hitem hothers ⊢
      rw [htokens, hlength, foldItems, if_neg hother, if_pos hopen]
      dsimp only
      rw [hitem.2]
      exact ⟨by rw [hitem.1, hothers.1], hothers.2⟩

/-- Inline content is read up to the token that closes its container. -/
theorem contentUntil_closes {asLeaf : String → Bool} {content : List Inline}
    (hcontent : ∀ node ∈ content, node.WellFormed) {name close : String}
    (hclose : name ++ "_close" = close) (position : Nat) (rest : List Token) :
    contentUntil close position
        (Token.inline (inlineTokens asLeaf content) :: Token.closes name :: rest) =
      (content, ⟨position + 2, rest⟩) := by
  have hinline : ¬ (Token.inline (inlineTokens asLeaf content)).name = close := by
    have hnever : Token.NeverCloses "inline" := Token.neverCloses_of_absent (by decide)
    exact hclose ▸ hnever name
  have hname : (Token.closes name).name = close := hclose
  rw [contentUntil, if_neg hinline, contentUntil, if_pos hname]
  simp [Token.inline, Inline.ofTokens_inlineTokens hcontent]

/-- A list of tokens that is read as a block inside any container. -/
def StandsFor (tokens : List Token) (block : Block) : Prop :=
  ∃ token inside, tokens = token :: inside ∧ Token.NeverCloses token.name ∧
    ReadsAs token inside block

theorem StandsFor.supplies {tokens : List Token} {block : Block}
    (hstands : StandsFor tokens block) : Supplies tokens [block] := by
  obtain ⟨token, inside, rfl, hnever, hreads⟩ := hstands
  exact hreads.supplies hnever

/-- The tokens of blocks supply these blocks, if those of each single block do. -/
theorem supplies_blocksTokens {asLeaf : String → Bool} {blocks : List Block}
    (hblocks : ∀ block ∈ blocks, StandsFor (block.tokens asLeaf) block) :
    Supplies (blocksTokens asLeaf blocks) blocks := by
  induction blocks with
  | nil => exact supplies_nil
  | cons block rest ih =>
      exact (hblocks block List.mem_cons_self).supplies.append
        (ih fun other hmem => hblocks other (List.mem_cons_of_mem _ hmem))

/-- A container is read as a block if folding what is inside, and the token that closes it,
gives that block. -/
theorem standsFor_wrap {name : String} {inside : List Token} {tag : Text} {block : Block}
    (hfold : ∀ (position : Nat) (rest : List Token),
      let fold := foldBlock { name := name ++ "_open", tag, nesting := 1 }
        ⟨position, inside ++ Token.closes name :: rest⟩
      fold.value = some block ∧ fold.next = ⟨position + inside.length + 1, rest⟩) :
    StandsFor (Token.wrap name inside tag) block := by
  refine ⟨_, inside ++ [Token.closes name], rfl, Token.neverCloses_open name, ?_⟩
  intro position rest
  rw [List.append_assoc, List.singleton_append, List.length_append, List.length_singleton,
    ← Nat.add_assoc]
  exact hfold position rest

/-- The depth of a heading is read from its tag. -/
theorem headingDepth_tag {depth : Int}
    (hdepth : (natText depth.natAbs).length ≤ maxIntegerDigits) :
    headingDepth ('h' :: intText depth) = depth := by
  have hkept : (intText depth).dropWhile (fun c => c = 'h' || c = 'H') = intText depth := by
    refine List.dropWhile_eq_self_iff.mpr fun hlength => ?_
    -- A number begins with a digit or a minus sign, and so is not shortened further.
    rcases isDigit_or_eq_of_mem_intText (List.getElem_mem hlength) with hdigit | hminus
    · rw [Bool.or_eq_true, decide_eq_true_iff, decide_eq_true_iff]
      rintro (heq | heq)
      all_goals exact absurd (heq ▸ hdigit) (by decide)
    · rw [hminus]
      decide
  rw [headingDepth, List.dropWhile_cons_of_pos (by decide), hkept, readInteger?_intText hdepth,
    Option.getD_some]

/-- A name that folding gives no meaning to stays the name of the kind. -/
theorem Block.Kind.ofName_of_unknown {name : String} (hname : name ∉ knownNames) :
    Kind.ofName name = .other name := by
  simp only [knownNames, List.mem_cons, List.not_mem_nil, or_false, not_or] at hname
  unfold Kind.ofName
  split
  all_goals simp_all

/-- A token that opens a container of an unknown name has no other meaning. -/
theorem Token.role_container {name : String} (hname : name ∉ Block.knownNames) :
    role { name := name ++ "_open", nesting := 1 } = .container := by
  have hother (known : String) (hknown : baseName known ∈ Block.knownNames) :
      name ++ "_open" ≠ known := by
    rintro rfl
    rw [baseName_open] at hknown
    exact hname hknown
  unfold role
  split
  case h_10 => rfl
  all_goals
    next heq => exact absurd heq (hother _ (by decide))

/-- A token of an unknown name that opens nothing is a leaf. -/
theorem Token.role_leaf {name : String} {text : Text} (hname : name ∉ Block.knownNames)
    (hopen : occursIn openEnding name.toList = false) : role (.leaf name text) = .leaf := by
  have hother (known : String)
      (hknown : known ∈ Block.knownNames ∨ occursIn openEnding known.toList = true) :
      name ≠ known := by
    rintro rfl
    rcases hknown with hknown | hknown
    · exact hname hknown
    · exact Bool.noConfusion (hopen.symm.trans hknown)
  unfold role
  split
  case h_10 => rfl
  all_goals
    next heq => exact absurd heq (hother _ (by decide))

theorem Block.tokens_ne_nil (asLeaf : String → Bool) (block : Block) :
    block.tokens asLeaf ≠ [] := by
  obtain ⟨kind, content, depth, ordered, items, header, rows, text, children⟩ := block
  cases kind with
  | other name =>
      simp only [tokens, Token.foreign]
      split
      · simp [Token.wrap]
      · simp
  | _ => simp [tokens, Token.wrap]

theorem eq_nil_of_blocksTokens_eq_nil {asLeaf : String → Bool} {blocks : List Block}
    (hnone : blocksTokens asLeaf blocks = []) : blocks = [] := by
  cases blocks with
  | nil => rfl
  | cons block rest =>
      rw [blocksTokens, List.append_eq_nil_iff] at hnone
      exact absurd hnone.1 (block.tokens_ne_nil asLeaf)

/-- A token that is a block by itself is read without touching what follows. -/
theorem standsFor_leaf {token : Token} {block : Block} (htoken : Token.NeverCloses token.name)
    (hfold : ∀ start, (foldBlock token start).value = some block ∧
      (foldBlock token start).next = start) : StandsFor [token] block :=
  ⟨token, [], rfl, htoken, fun _ _ => hfold _⟩

/-! ### One lemma for each kind of block

The role of the first token says which function reads what is inside. -/

section Kinds

variable {asLeaf : String → Bool} {content : List Inline}

theorem standsFor_heading {depth : Int}
    (hdepth : (natText depth.natAbs).length ≤ maxIntegerDigits)
    (hcontent : ∀ node ∈ content, node.WellFormed) :
    StandsFor
      (Token.wrap "heading" [.inline (inlineTokens asLeaf content)] ('h' :: intText depth))
      { kind := .heading, depth, content } := by
  refine standsFor_wrap fun position rest => ?_
  have hclose : "heading" ++ "_close" = "heading_close" := rfl
  have hrole : Token.role
      { name := "heading" ++ "_open", tag := 'h' :: intText depth, nesting := 1 } = .heading := rfl
  rw [foldBlock, hrole]
  simp [contentUntil_closes hcontent hclose, headingDepth_tag hdepth]

theorem standsFor_paragraph (hcontent : ∀ node ∈ content, node.WellFormed) :
    StandsFor (Token.wrap "paragraph" [.inline (inlineTokens asLeaf content)])
      { kind := .paragraph, content } := by
  refine standsFor_wrap fun position rest => ?_
  have hclose : "paragraph" ++ "_close" = "paragraph_close" := rfl
  have hrole : Token.role { name := "paragraph" ++ "_open", nesting := 1 } = .paragraph := rfl
  rw [foldBlock, hrole]
  simp [contentUntil_closes hcontent hclose]

/-- A list is read item by item up to the token that closes it. -/
theorem standsFor_list (ordered : Bool) {items : List (List Block)}
    (hitems : ∀ item ∈ items, ∀ block ∈ item, StandsFor (block.tokens asLeaf) block)
    {name close : String} (hclose : name ++ "_close" = close)
    (hrole : Token.role { name := name ++ "_open", nesting := 1 } = .list ordered)
    (hname : Token.closingName (name ++ "_open") = close) :
    StandsFor (Token.wrap name (itemsTokens asLeaf items)) { kind := .list, ordered, items } := by
  refine standsFor_wrap fun position rest => ?_
  obtain ⟨hvalue, hnext⟩ := foldItems_closes
    (fun item hmem => supplies_blocksTokens (hitems item hmem)) hclose position rest
  rw [foldBlock, hrole]
  simp only [hname]
  exact ⟨by rw [hvalue], hnext⟩

/-- A table is read by the states of its rows. -/
theorem standsFor_table {header : List (List Inline)} {rows : List (List (List Inline))}
    (hheader : ∀ cell ∈ header, ∀ node ∈ cell, node.WellFormed)
    (hrows : ∀ row ∈ rows, ∀ cell ∈ row, ∀ node ∈ cell, node.WellFormed) :
    StandsFor (Token.wrap "table" (tableTokens asLeaf header rows))
      { kind := .table, header, rows } := by
  refine standsFor_wrap fun position rest => ?_
  have hrole : Token.role { name := "table" ++ "_open", nesting := 1 } = .table := rfl
  have hname : (Token.closes "table").name = "table_close" := rfl
  rw [foldBlock, hrole]
  dsimp only
  rw [TableRows.leads_table hheader hrows, TableRows.run, if_pos hname]
  exact ⟨rfl, rfl⟩

theorem standsFor_code (text : Text) : StandsFor [.leaf "fence" text] { kind := .code, text } := by
  have hnever : Token.NeverCloses "fence" := Token.neverCloses_of_absent (by decide)
  have hrole : Token.role (.leaf "fence" text) = .code := rfl
  refine standsFor_leaf hnever fun start => ?_
  rw [foldBlock, hrole]
  exact ⟨rfl, rfl⟩

/-- A quote is read block by block up to the token that closes it. -/
theorem standsFor_quote {children : List Block}
    (hchildren : ∀ block ∈ children, StandsFor (block.tokens asLeaf) block) :
    StandsFor (Token.wrap "blockquote" (blocksTokens asLeaf children))
      { kind := .quote, children } := by
  refine standsFor_wrap fun position rest => ?_
  have hclose : "blockquote" ++ "_close" = "blockquote_close" := rfl
  have hrole : Token.role { name := "blockquote" ++ "_open", nesting := 1 } = .quote := rfl
  obtain ⟨hvalue, hnext⟩ := (supplies_blocksTokens hchildren).closes hclose position rest
  rw [foldBlock, hrole]
  dsimp only
  exact ⟨by rw [hvalue], hnext⟩

theorem standsFor_rule : StandsFor [.leaf "hr"] { kind := .rule } := by
  have hnever : Token.NeverCloses "hr" := Token.neverCloses_of_absent (by decide)
  have hrole : Token.role (.leaf "hr") = .rule := rfl
  refine standsFor_leaf hnever fun start => ?_
  rw [foldBlock, hrole]
  exact ⟨rfl, rfl⟩

/-- A block of an unknown kind is read from a leaf if it has text, and from a container
otherwise. -/
theorem standsFor_foreign {name : String} {text : Text} {children : List Block}
    (hname : name ∉ Block.knownNames)
    (hopen : occursIn Token.openEnding name.toList = false)
    (hclose : occursIn Token.closeEnding name.toList = false) (hone : text = [] ∨ children = [])
    (hchildren : ∀ block ∈ children, StandsFor (block.tokens asLeaf) block) :
    StandsFor (Token.foreign asLeaf name text (blocksTokens asLeaf children))
      { kind := .other name, text, children } := by
  rcases Token.foreign_cases hone eq_nil_of_blocksTokens_eq_nil with
    ⟨rfl, htokens⟩ | ⟨rfl, htokens⟩
  · rw [htokens]
    refine standsFor_wrap fun position rest => ?_
    obtain ⟨hvalue, hnext⟩ := (supplies_blocksTokens hchildren).closes rfl position rest
    rw [foldBlock, Token.role_container hname]
    simp only [Token.closingName_open hopen, Token.baseName_open,
      Block.Kind.ofName_of_unknown hname]
    exact ⟨by rw [hvalue], hnext⟩
  · rw [htokens]
    refine standsFor_leaf (Token.neverCloses_of_absent hclose) fun start => ?_
    rw [foldBlock, Token.role_leaf hname hopen]
    simp [Token.leaf, Block.Kind.ofName_of_unknown hname]

end Kinds

/-- A well-formed block is read from its tokens. -/
theorem Block.WellFormed.standsFor {block : Block} (hblock : block.WellFormed)
    (asLeaf : String → Bool) : StandsFor (block.tokens asLeaf) block := by
  induction hblock with
  | heading hdepth hcontent => exact standsFor_heading hdepth hcontent
  | paragraph hcontent => exact standsFor_paragraph hcontent
  | list ordered _ ih =>
      cases ordered with
      | false =>
          have hclose : "bullet_list" ++ "_close" = "bullet_list_close" := rfl
          exact standsFor_list false ih hclose rfl (Token.closingName_open (by decide))
      | true =>
          have hclose : "ordered_list" ++ "_close" = "ordered_list_close" := rfl
          exact standsFor_list true ih hclose rfl (Token.closingName_open (by decide))
  | table hheader hrows => exact standsFor_table hheader hrows
  | code text => exact standsFor_code text
  | quote _ ih => exact standsFor_quote ih
  | rule => exact standsFor_rule
  | other hname hopen hclose hone _ ih =>
      rw [Block.tokens]
      exact standsFor_foreign hname hopen hclose hone ih

/-! ## Documents -/

/-- Folding the tokens of well-formed blocks gives the blocks back. As the content of a
container of any name they are read up to the token that closes it, which is passed, and
nothing of what follows is touched; and so is every one of the blocks from the token that
begins it. -/
theorem Block.ofTokens_blocksTokens {blocks : List Block}
    (hblocks : ∀ block ∈ blocks, block.WellFormed) (asLeaf : String → Bool) :
    Block.ofTokens (blocksTokens asLeaf blocks) = blocks ∧
    (∀ (name : String) (position : Nat) (rest : List Token),
      let fold := foldBlocks (some (name ++ "_close"))
        ⟨position, blocksTokens asLeaf blocks ++ Token.closes name :: rest⟩
      fold.value = blocks ∧
        fold.next = ⟨position + (blocksTokens asLeaf blocks).length + 1, rest⟩) ∧
    ∀ block ∈ blocks, ∃ token inside, block.tokens asLeaf = token :: inside ∧
      ∀ (position : Nat) (rest : List Token),
        let fold := foldBlock token ⟨position, inside ++ rest⟩
        fold.value = some block ∧ fold.next = ⟨position + inside.length, rest⟩ := by
  have hsupplies : Supplies (blocksTokens asLeaf blocks) blocks :=
    supplies_blocksTokens fun block hmem => (hblocks block hmem).standsFor asLeaf
  refine ⟨?_, fun name => hsupplies.closes rfl, ?_⟩
  · -- A document is read like a container that nothing closes.
    obtain ⟨hvalue, -⟩ := hsupplies none (fun _ hnone => nomatch hnone) 0 []
    rw [List.append_nil, foldBlocks] at hvalue
    exact hvalue.trans (List.append_nil blocks)
  · intro block hmem
    obtain ⟨token, inside, htokens, -, hreads⟩ := (hblocks block hmem).standsFor asLeaf
    exact ⟨token, inside, htokens, hreads⟩

/-- A quote in a quote, and a container of an unknown name in another one of that name, in
the item of a list. -/
def nestedBlocks : List Block :=
  let line (c : Char) : Block := { kind := .paragraph, content := [{ kind := .text, text := [c] }] }
  let quote (children : List Block) : Block := { kind := .quote, children }
  let note (children : List Block) : Block := { kind := .other "note", children }
  [quote [quote [line 'a'], line 'b'],
    { kind := .list, items := [[note [note [], line 'c'], { kind := .rule }], []] }]

theorem ofTokens_nestedBlocks :
    (∀ block ∈ nestedBlocks, block.WellFormed) ∧
      (blocksTokens (fun _ => false) nestedBlocks).map Token.name =
        ["blockquote_open", "blockquote_open", "paragraph_open", "inline", "paragraph_close",
          "blockquote_close", "paragraph_open", "inline", "paragraph_close", "blockquote_close",
          "bullet_list_open", "list_item_open", "note_open", "note_open", "note_close",
          "paragraph_open", "inline", "paragraph_close", "note_close", "hr", "list_item_close",
          "list_item_open", "list_item_close", "bullet_list_close"] ∧
      Block.ofTokens (blocksTokens (fun _ => false) nestedBlocks) = nestedBlocks := by
  have hline (c : Char) : Block.WellFormed
      { kind := .paragraph, content := [{ kind := .text, text := [c] }] } :=
    .paragraph (by simpa using .text (by simp))
  have hnote {children : List Block} (hchildren : ∀ block ∈ children, block.WellFormed) :
      Block.WellFormed { kind := .other "note", children } :=
    .other (by decide) (by decide) (by decide) (.inl rfl) hchildren
  have hnested : ∀ block ∈ nestedBlocks, block.WellFormed := by
    simp only [nestedBlocks, List.forall_mem_cons, List.not_mem_nil, false_implies, implies_true,
      and_true]
    constructor
    · refine .quote ?_
      simp only [List.forall_mem_cons, List.not_mem_nil, false_implies, implies_true, and_true]
      exact ⟨.quote (by simpa using hline 'a'), hline 'b'⟩
    · refine .list false ?_
      simp only [List.forall_mem_cons, List.not_mem_nil, false_implies, implies_true, and_true]
      exact ⟨hnote (by simpa using ⟨hnote (by simp), hline 'c'⟩), .rule⟩
  exact ⟨hnested, rfl, (Block.ofTokens_blocksTokens hnested _).1⟩

end DocPress
