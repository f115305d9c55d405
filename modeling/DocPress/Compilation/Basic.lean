import DocPress.Compilation.Inline
import DocPress.Compilation.Lines
import DocPress.Compilation.Table

/-!
# Compilations

A document of blocks is compiled for a position: into one text to insert there,
the style operations over that text, and the tables to insert afterwards. Every
block is compiled on its own for the position where its text begins, and every
text is empty or ends with a line end.
-/

namespace DocPress

/-! ## The styles of blocks -/

/-- The named style of a heading; depths are held between one and six. -/
def headingStyle (depth : Int) : Style :=
  .paragraph [("namedStyleType", .str s!"HEADING_{min (max depth 1) 6}")]

/-- The bullets or numbers of a list. -/
def listStyle (ordered : Bool) : Style :=
  .list (if ordered then "NUMBERED_DECIMAL_NESTED" else "BULLET_DISC_CIRCLE_SQUARE")

/-- A length of a whole number of points. -/
def wholePoints (magnitude : Int) : Json :=
  points (.integer magnitude)

/-- A grey between black, at zero, and white, at ten. -/
def grey (tenths : Nat) : Json :=
  rgbColor (.decimal tenths (-1)) (.decimal tenths (-1)) (.decimal tenths (-1))

/-- The indentation and the left border of a quote. -/
def quoteParagraphStyle : Style :=
  .paragraph [("indentStart", wholePoints 36),
    ("borderLeft", .object [("color", grey 8), ("width", wholePoints 3),
      ("padding", wholePoints 12), ("dashStyle", .str "SOLID")])]

/-- The grey characters of a quote. -/
def quoteTextStyle : Style :=
  .text [("foregroundColor", grey 4)]

/-- The characters of a code block. -/
def codeBlockStyle : Style :=
  .text [("weightedFontFamily", codeFont), ("fontSize", wholePoints 10)]

/-- The line that stands for a thematic break. -/
def ruleLine : Text :=
  List.replicate 40 '━'

/-- The small grey characters of a thematic break. -/
def ruleTextStyle : Style :=
  .text [("foregroundColor", grey 8), ("fontSize", wholePoints 8)]

/-- The centred paragraph of a thematic break. -/
def ruleParagraphStyle : Style :=
  .paragraph [("alignment", .str "CENTER"), ("spaceAbove", wholePoints 6),
    ("spaceBelow", wholePoints 6)]

/-! ## Blocks -/

/-- What one block contributes. -/
structure BlockOutput where
  /-- The text of the block. -/
  text : Text := []
  /-- The operations over it. -/
  operations : List StyleOperation := []
  /-- The table that belongs where the text begins. -/
  table : Option TableDescriptor := none

/-- Lines of inline content that begin at a position, each with its line end. -/
def renderLines (start : Int) : List (List Inline) → Styled
  | [] => {}
  | line :: rest =>
      let first := (renderInline start line).append (.plain ['\n'])
      first.append (renderLines (start + units first.text) rest)

/-- Plain lines with their entities decoded, each with its line end. -/
def plainParagraphs (lines : List Text) : Text :=
  lines.flatMap fun line => decodeEntities line ++ ['\n']

/-- The position of the last line end of a text that begins at a position. -/
def lastLineEnd (start : Int) (text : Text) : Int :=
  start + units text - 1

/-- A heading: its text is styled, its line end is not. -/
def renderHeading (start : Int) (depth : Int) (content : List Inline) : BlockOutput :=
  let inline := renderInline start content
  let text := inline.text ++ ['\n']
  { text
    operations := StyleOperation.covering start (lastLineEnd start text) (headingStyle depth) ++
      inline.operations }

/-- A paragraph. -/
def renderParagraph (start : Int) (content : List Inline) : BlockOutput :=
  let inline := renderInline start content
  { text := inline.text ++ ['\n'], operations := inline.operations }

/-- A list: one paragraph for each line of its items, and bullets over all of
them. -/
def renderList (start : Int) (ordered : Bool) (items : List (List Block)) : BlockOutput :=
  let lines := renderLines start (itemsLines items)
  { text := lines.text
    operations := lines.operations ++
      StyleOperation.covering start (lastLineEnd start lines.text) (listStyle ordered) }

/-- A quote: its blocks as plain lines. -/
def renderQuote (start : Int) (children : List Block) : BlockOutput :=
  let text := plainParagraphs (plainLines children)
  let stop := lastLineEnd start text
  { text
    operations := StyleOperation.covering start stop quoteParagraphStyle ++
      StyleOperation.covering start stop quoteTextStyle }

/-- A code block: its text as it is, with one line end after it. -/
def renderCode (start : Int) (text : Text) : BlockOutput :=
  let code := dropTrailingOnce '\n' text
  { text := code ++ ['\n']
    operations := StyleOperation.covering start (start + units code) codeBlockStyle }

/-- A thematic break: a line of rule characters. -/
def renderRule (start : Int) : BlockOutput :=
  let stop := start + units ruleLine
  { text := ruleLine ++ ['\n']
    operations := StyleOperation.covering start stop ruleTextStyle ++
      StyleOperation.covering start stop ruleParagraphStyle }

/-- A table: an empty line that holds its place. A table without columns leaves
nothing. -/
def renderTable (start : Int) (header : List (List Inline)) (rows : List (List (List Inline))) :
    BlockOutput :=
  match TableDescriptor.ofRows? header rows with
  | none => {}
  | some table => { text := ['\n'], table := some { table with anchor := some start } }

/-- A block that begins at a position. -/
def Block.render (start : Int) (block : Block) : BlockOutput :=
  match block.kind with
  | .heading => renderHeading start block.depth block.content
  | .paragraph => renderParagraph start block.content
  | .list => renderList start block.ordered block.items
  | .table => renderTable start block.header block.rows
  | .code => renderCode start block.text
  | .quote => renderQuote start block.children
  | .rule => renderRule start
  | .other _ => { text := plainParagraphs block.plainLines }

/-! ## Documents -/

/-- What to do to a document: insert a text at a position, apply operations to
it, and insert tables. -/
structure Compilation where
  /-- The text to insert. -/
  text : Text
  /-- The operations, in the order in which they are applied. -/
  operations : List StyleOperation
  /-- The tables, in the order in which they stand in the source. -/
  tables : List TableDescriptor
  /-- Where the text is inserted. -/
  start : Int := 1

/-- The blocks of a document that begins at a position. -/
def renderBlocks (start : Int) : List Block → List BlockOutput
  | [] => []
  | block :: rest =>
      let first := block.render start
      first :: renderBlocks (start + units first.text) rest

/-- Operations in the order of application: bullets first, since they reset
the styles of their paragraphs. -/
def bulletsFirst (operations : List StyleOperation) : List StyleOperation :=
  operations.filter (·.style.isBullets) ++ operations.filter (!·.style.isBullets)

/-- Compile blocks for a position. -/
def compile (blocks : List Block) (start : Int := 1) : Compilation :=
  let outputs := renderBlocks start blocks
  { text := outputs.flatMap BlockOutput.text
    operations := bulletsFirst (outputs.flatMap BlockOutput.operations)
    tables := outputs.filterMap BlockOutput.table
    start }

namespace Compilation

/-- The position after the inserted text. -/
def stop (compilation : Compilation) : Int :=
  compilation.start + units compilation.text

/-- The requests of a compilation: one insertion, unless there is no text, and
then the operations. -/
def requests (compilation : Compilation) : List Request :=
  let insertion :=
    if compilation.text.isEmpty then []
    else [Request.insertText compilation.start compilation.text]
  insertion ++ compilation.operations.map StyleOperation.toRequest

/-- A compilation as JSON. -/
def toJson (compilation : Compilation) : Json :=
  .object [("text", .string compilation.text), ("startIndex", .int compilation.start),
    ("requests", .array (compilation.requests.map Request.toJson)),
    ("tables", .array (compilation.tables.map TableDescriptor.toJson))]

end Compilation

end DocPress
