import DocPress.Node.Basic

/-!
# Blocks as lines

Some blocks are shown one line at a time: what is inside a quote, what stands in
a list item beside its paragraphs, and blocks of an unknown kind. A list item
is a list of lines too, and the lines of the lists inside it follow at the same
level. A line is inline content; outside list items it is plain text.
-/

namespace DocPress

/-- A line of plain text. -/
def textLine (text : Text) : List Inline :=
  [{ kind := .text, text }]

/-- The lines of a raw text, without the empty ones at its end. -/
def rawLines (text : Text) : List Text :=
  let text := dropTrailingRun '\n' text
  if text.isEmpty then [] else textLines text

/-- A row of a table as one line of text, bars between its cells. -/
def rowLine (cells : List (List Inline)) : Text :=
  joinWith " | ".toList (cells.map plainText)

/-- A line, unless it has no content. -/
def lineOf (content : List Inline) : List (List Inline) :=
  if content.isEmpty then [] else [content]

/-- Further inline content on a line, after a blank if there is content on the
line already. -/
def continueLine (line content : List Inline) : List Inline :=
  if line.isEmpty then content else line ++ textLine [' '] ++ content

/-- Whether a block's inline content continues a line of a list item. -/
def Block.Kind.isFlowing : Block.Kind → Bool
  | .paragraph | .heading => true
  | _ => false

mutual

/-- The lines of a block. -/
def Block.lines : Block → List (List Inline)
  | ⟨kind, content, _, _, items, header, rows, text, children⟩ =>
      match kind with
      | .paragraph | .heading => [textLine (plainText content)]
      | .code => [textLine (dropTrailingOnce '\n' text)]
      | .list => itemsLines items
      | .table => (header :: rows).map fun row => textLine (rowLine row)
      | .quote | .rule | .other _ =>
          if children.isEmpty then (rawLines text).map textLine else blocksLines children

/-- The lines of blocks, one block after the other, as plain text. -/
def blocksLines : List Block → List (List Inline)
  | [] => []
  | block :: rest => block.lines.map (textLine ∘ plainText) ++ blocksLines rest

/-- The lines of the rest of a list item. `line` is the line begun so far, and
`some` says whether the item has lines already; an item has at least one. -/
def itemLines (line : List Inline) (some : Bool) : List Block → List (List Inline)
  | [] => if line.isEmpty && some then [] else [line]
  | block :: rest =>
      if block.kind.isFlowing then itemLines (continueLine line block.content) some rest
      else
        let lines := lineOf line ++ block.lines
        lines ++ itemLines [] (some || !lines.isEmpty) rest

/-- The lines of list items, one item after the other. -/
def itemsLines : List (List Block) → List (List Inline)
  | [] => []
  | item :: rest => itemLines [] false item ++ itemsLines rest

end

/-- The lines of a block as plain text. -/
def Block.plainLines (block : Block) : List Text :=
  block.lines.map plainText

/-- The lines of blocks as plain text. -/
def plainLines (blocks : List Block) : List Text :=
  (blocksLines blocks).map plainText

end DocPress
