import DocPress.Node.Basic
import DocPress.Text.Integer
import DocPress.Token

/-!
# From tokens to the tree

The token stream is folded into blocks and inline nodes. Any stream is
accepted. A block container ends at the first token with the name that closes
it, or with the stream. An inline container ends at the next token that closes
anything; one left open is dissolved into the container around it.
-/

namespace DocPress

/-! ## Inline content -/

/-- An inline container that is still open. -/
structure OpenInline where
  /-- The kind of the container. -/
  kind : Inline.Kind
  /-- Its destination, if it is a link. -/
  href : Option Text
  /-- The nodes in it so far. -/
  nodes : List Inline

/-- Inline content read so far: the open containers, the innermost first, and
the nodes outside all of them. -/
structure InlineStack where
  /-- The open containers. -/
  frames : List OpenInline := []
  /-- The nodes outside all containers. -/
  nodes : List Inline := []

namespace InlineStack

/-- Add nodes to the innermost container. -/
def extend (stack : InlineStack) (nodes : List Inline) : InlineStack :=
  match stack.frames with
  | [] => { stack with nodes := stack.nodes ++ nodes }
  | frame :: outer => { stack with frames := { frame with nodes := frame.nodes ++ nodes } :: outer }

/-- Open a container. -/
def push (stack : InlineStack) (kind : Inline.Kind) (href : Option Text) : InlineStack :=
  { stack with frames := ⟨kind, href, []⟩ :: stack.frames }

/-- Close the innermost container; without one, nothing changes. -/
def pop (stack : InlineStack) : InlineStack :=
  match stack.frames with
  | [] => stack
  | frame :: outer =>
      { stack with frames := outer }.extend
        [{ kind := frame.kind, children := frame.nodes, href := frame.href }]

/-- The nodes of the open containers, the outermost first. -/
def openNodes : List OpenInline → List Inline
  | [] => []
  | frame :: outer => openNodes outer ++ frame.nodes

/-- All nodes, the containers still open dissolved. -/
def dissolve (stack : InlineStack) : List Inline :=
  stack.nodes ++ openNodes stack.frames

end InlineStack

/-- What the source of a task list checkbox contains. -/
def checkboxMark : Text :=
  "class=\"task-list-item-checkbox\"".toList

/-- What the source of a ticked checkbox contains. -/
def tickedMark : Text :=
  "checked=\"checked\"".toList

mutual

/-- The node of a token that neither opens nor closes a container. -/
def Inline.ofToken : Token → Inline
  | ⟨name, _, _, content, _, children⟩ =>
      if name = "code_inline" then { kind := .codeSpan, text := content }
      else if name = "softbreak" then { kind := .softBreak }
      else if name = "hardbreak" then { kind := .hardBreak }
      else if name = "html_inline" && occursIn checkboxMark content then
        { kind := .checkbox, checked := occursIn tickedMark content }
      else if name = "image" then
        { kind := .other "image", text := content,
          children := (InlineStack.run {} children).dissolve }
      else { kind := .ofName name, text := content }

/-- The stack after further tokens. A text token without text leaves no
node. -/
def InlineStack.run (stack : InlineStack) : List Token → InlineStack
  | [] => stack
  | token :: rest =>
      if token.nesting = 1 then
        let kind := Inline.Kind.ofName (Token.baseName token.name)
        (stack.push kind (if kind = .link then token.href else none)).run rest
      else if token.nesting = -1 then stack.pop.run rest
      else if token.name = "text" && token.content.isEmpty then stack.run rest
      else (stack.extend [Inline.ofToken token]).run rest

end

/-- The nodes of inline tokens. -/
def Inline.ofTokens (tokens : List Token) : List Inline :=
  (InlineStack.run {} tokens).dissolve

/-! ## Blocks -/

/-- A place in the token stream: how many tokens lie before it, and those that
follow. -/
structure Cursor where
  /-- The number of tokens passed. -/
  position : Nat
  /-- The tokens still to come. -/
  rest : List Token

/-- A value read from a place in the stream, and the place after it, which does
not lie before. -/
structure Folded (α : Type) (start : Cursor) where
  /-- What was read. -/
  value : α
  /-- Where reading goes on. -/
  next : Cursor
  /-- Reading does not give tokens back. -/
  next_le : next.rest.length ≤ start.rest.length

/-- What a token means where a block is expected. -/
inductive Token.Role
  | heading
  | paragraph
  | list (ordered : Bool)
  | quote
  | code
  | rule
  | table
  | container
  | close
  | leaf
  deriving DecidableEq, Repr

/-- The role of a token. -/
def Token.role (token : Token) : Token.Role :=
  match token.name with
  | "heading_open" => .heading
  | "paragraph_open" => .paragraph
  | "bullet_list_open" => .list false
  | "ordered_list_open" => .list true
  | "blockquote_open" => .quote
  | "fence" | "code_block" => .code
  | "hr" => .rule
  | "table_open" => .table
  | _ => if token.nesting = 1 then .container else if token.nesting = -1 then .close else .leaf

/-- The depth of a heading with the given tag: the number after its letters, or
one if there is no number. -/
def headingDepth (tag : Text) : Int :=
  (readInteger? (tag.dropWhile fun c => c = 'h' || c = 'H')).getD 1

/-- The inline content up to the token that closes a block. When that token
never comes, the place after it counts as passed all the same. -/
def contentUntil (close : String) (position : Nat) : List Token → List Inline × Cursor
  | [] => ([], ⟨position + 1, []⟩)
  | token :: rest =>
      if token.name = close then ([], ⟨position + 1, rest⟩)
      else
        let (later, next) := contentUntil close (position + 1) rest
        let here := if token.name = "inline" then Inline.ofTokens token.children else []
        (here ++ later, next)

theorem contentUntil_rest_length (close : String) (position : Nat) (tokens : List Token) :
    (contentUntil close position tokens).2.rest.length ≤ tokens.length := by
  induction tokens generalizing position with
  | nil => simp [contentUntil]
  | cons token rest ih =>
      simp only [contentUntil]
      split
      · simp
      · exact Nat.le_succ_of_le (ih (position + 1))

/-- The rows of a table read so far. -/
structure TableRows where
  /-- The header row. -/
  header : List (List Inline) := []
  /-- The body rows. -/
  rows : List (List (List Inline)) := []
  /-- The cells of the row being read. -/
  cells : List (List Inline) := []
  /-- Whether the header is being read. -/
  inHead : Bool := false

/-- The rows after one more token of the table. -/
def TableRows.step (table : TableRows) (token : Token) : TableRows :=
  match token.name with
  | "thead_open" => { table with inHead := true }
  | "thead_close" => { table with inHead := false }
  | "tr_open" => { table with cells := [] }
  | "tr_close" =>
      if table.inHead then { table with header := table.cells, cells := [] }
      else { table with rows := table.rows ++ [table.cells], cells := [] }
  | "inline" => { table with cells := table.cells ++ [Inline.ofTokens token.children] }
  | _ => table

/-- The rows of a table up to the token that closes it. -/
def TableRows.run (table : TableRows) (position : Nat) : List Token → TableRows × Cursor
  | [] => (table, ⟨position, []⟩)
  | token :: rest =>
      if token.name = "table_close" then (table, ⟨position + 1, rest⟩)
      else (table.step token).run (position + 1) rest

theorem TableRows.run_rest_length (table : TableRows) (position : Nat) (tokens : List Token) :
    (table.run position tokens).2.rest.length ≤ tokens.length := by
  induction tokens generalizing table position with
  | nil => simp [TableRows.run]
  | cons token rest ih =>
      simp only [TableRows.run]
      split
      · simp
      · exact Nat.le_succ_of_le (ih (table.step token) (position + 1))

mutual

/-- The block that a token stands for or opens, read from the place after the
token. A stray closing token yields none. -/
def foldBlock (token : Token) (start : Cursor) : Folded (Option Block) start :=
  match token.role with
  | .heading =>
      let content := contentUntil "heading_close" start.position start.rest
      ⟨some { kind := .heading, depth := headingDepth token.tag, content := content.1 },
        content.2,
        contentUntil_rest_length ..⟩
  | .paragraph =>
      let content := contentUntil "paragraph_close" start.position start.rest
      ⟨some { kind := .paragraph, content := content.1 }, content.2,
        contentUntil_rest_length ..⟩
  | .list ordered =>
      let items := foldItems (Token.closingName token.name) start
      ⟨some { kind := .list, ordered, items := items.value }, items.next, items.next_le⟩
  | .quote =>
      let children := foldBlocks (some "blockquote_close") start
      ⟨some { kind := .quote, children := children.value }, children.next, children.next_le⟩
  | .code => ⟨some { kind := .code, text := token.content }, start, Nat.le_refl _⟩
  | .rule => ⟨some { kind := .rule }, start, Nat.le_refl _⟩
  | .table =>
      let table := TableRows.run {} start.position start.rest
      ⟨some { kind := .table, header := table.1.header, rows := table.1.rows }, table.2,
        TableRows.run_rest_length ..⟩
  | .container =>
      let children := foldBlocks (some (Token.closingName token.name)) start
      ⟨some { kind := .ofName (Token.baseName token.name), children := children.value },
        children.next, children.next_le⟩
  | .close => ⟨none, start, Nat.le_refl _⟩
  | .leaf => ⟨some { kind := .ofName token.name, text := token.content }, start, Nat.le_refl _⟩
termination_by (start.rest.length, 1)

/-- The blocks up to the token of the given name, which is passed, or up to the
end of the stream. -/
def foldBlocks (close : Option String) (start : Cursor) : Folded (List Block) start :=
  match start with
  | ⟨position, []⟩ => ⟨[], ⟨position, []⟩, Nat.le_refl _⟩
  | ⟨position, token :: rest⟩ =>
      if close = some token.name then ⟨[], ⟨position + 1, rest⟩, Nat.le_succ _⟩
      else
        let block := foldBlock token ⟨position + 1, rest⟩
        let later := foldBlocks close block.next
        ⟨block.value.toList ++ later.value, later.next,
          Nat.le_succ_of_le (Nat.le_trans later.next_le block.next_le)⟩
termination_by (start.rest.length, 0)
decreasing_by
  · exact Prod.Lex.left _ _ (Nat.lt_succ_self _)
  · exact Prod.Lex.left _ _ (Nat.lt_succ_of_le block.next_le)

/-- The items of a list up to the token of the given name, which is passed, or
up to the end of the stream. Tokens between the items are skipped. -/
def foldItems (close : String) (start : Cursor) : Folded (List (List Block)) start :=
  match start with
  | ⟨position, []⟩ => ⟨[], ⟨position, []⟩, Nat.le_refl _⟩
  | ⟨position, token :: rest⟩ =>
      if token.name = close then ⟨[], ⟨position + 1, rest⟩, Nat.le_succ _⟩
      else if token.name = "list_item_open" then
        let item := foldBlocks (some "list_item_close") ⟨position + 1, rest⟩
        let later := foldItems close item.next
        ⟨item.value :: later.value, later.next,
          Nat.le_succ_of_le (Nat.le_trans later.next_le item.next_le)⟩
      else
        let later := foldItems close ⟨position + 1, rest⟩
        ⟨later.value, later.next, Nat.le_succ_of_le later.next_le⟩
termination_by (start.rest.length, 0)
decreasing_by
  · exact Prod.Lex.left _ _ (Nat.lt_succ_self _)
  · exact Prod.Lex.left _ _ (Nat.lt_succ_of_le item.next_le)
  · exact Prod.Lex.left _ _ (Nat.lt_succ_self _)

end

/-- The blocks of a token stream. -/
def Block.ofTokens (tokens : List Token) : List Block :=
  (foldBlocks none ⟨0, tokens⟩).value

end DocPress
