import DocPress.Markdown.Definition
import DocPress.Token

/-!
# The blocks of a page

A page is read block by block. Quotes and list items are containers: their
content is a page of its own, read with the same rules one or two levels deeper.
The levels left bound the depth; where none is left, content is skipped.
Inline content is not read here; its token holds the source of it.
-/

namespace DocPress.Markdown

/-- What was read from a page. -/
structure Reading where
  /-- The tokens of the blocks. -/
  tokens : List Token := []
  /-- The link definitions. -/
  definitions : Definitions := []
  /-- The line after the last block. -/
  next : Nat

/-- A reader of the lines of a page from one to before another. -/
abbrev Reader := Page → Nat → Nat → Reading

/-- The token of inline content. -/
def inlineToken (content : Text) : Token :=
  .leaf "inline" content

namespace Page

/-! ## Blocks without content of their own kind -/

/-- The line after the last line of an indented code block; `last` is the line
after the last one found so far that is not empty. -/
def codeEnd (page : Page) (stop last n : Nat) : Nat :=
  if _inside : n < stop then
    if page.isEmpty n then page.codeEnd stop last (n + 1)
    else if page.isCode n then page.codeEnd stop (n + 1) (n + 1)
    else last
  else last
termination_by stop - n

/-- An indented code block. -/
def readCode (page : Page) (stop n : Nat) : Reading :=
  let next := page.codeEnd stop (n + 1) (n + 1)
  { tokens := [.leaf "code_block" (page.linesText (page.indent + 4) false n next ++ ['\n'])], next }

/-- A fenced code block. -/
def readFence (page : Page) (fence : Fence) (stop n : Nat) : Reading :=
  let (last, next) := page.fenceEnd fence stop (n + 1)
  { tokens := [.leaf "fence" (page.linesText (page.line n).column true (n + 1) last)], next }

/-- The line after a block of HTML that did not end on its first line. Empty lines
belong to it whatever their indentation. -/
def htmlEnd (page : Page) (start : Html.BlockStart) (stop n : Nat) : Nat :=
  if _inside : n < stop then
    if page.isOutdented n && !page.isEmpty n then n
    else if start.ends (page.text n) then if page.isEmpty n then n else n + 1
    else page.htmlEnd start stop (n + 1)
  else n
termination_by stop - n

/-- A block of HTML. -/
def readHtml (page : Page) (start : Html.BlockStart) (stop n : Nat) : Reading :=
  let next := if start.ends (page.text n) then n + 1 else page.htmlEnd start stop (n + 1)
  { tokens := [.leaf "html_block" (page.linesText page.indent true n next)], next }

/-- The tokens of a heading. -/
def headingTokens (level : Nat) (content : Text) : List Token :=
  let tag := s!"h{level}"
  [.opening "heading_open" tag, inlineToken content, .closing "heading_close" tag]

/-- The level of the underlined heading that begins before line `n`, and the
line that underlines it. -/
def underlineEnd? (page : Page) (stop n : Nat) : Option (Nat × Nat) :=
  if _inside : n < stop then
    if page.isEmpty n then none
    else if page.isCode n then page.underlineEnd? stop (n + 1)
    else
      match page.underline? n with
      | some level => some (level, n)
      | none =>
          if (page.line n).column < 0 then page.underlineEnd? stop (n + 1)
          else if page.interruptsParagraph stop n then none
          else page.underlineEnd? stop (n + 1)
  else none
termination_by stop - n

/-- The line after a paragraph that goes through the line before `n`. -/
def paragraphEnd (page : Page) (n : Nat) : Nat :=
  if _inside : n < page.limit then
    if page.isEmpty n ||
        (!page.continuesParagraph n && page.interruptsParagraph page.limit n) then n
    else page.paragraphEnd (n + 1)
  else n
termination_by page.limit - n

/-- The inline content of the lines of a paragraph. -/
def paragraphText (page : Page) (start stop : Nat) : Text :=
  trimSpacing (page.linesText page.indent false start stop)

/-- A paragraph. -/
def readParagraph (page : Page) (n : Nat) : Reading :=
  let next := page.paragraphEnd (n + 1)
  { tokens :=
      [.opening "paragraph_open" "p", inlineToken (page.paragraphText n next),
        .closing "paragraph_close" "p"]
    next }

/-! ## Tables -/

/-- The most empty cells that are added to the rows of one table. -/
def maxAddedCells : Int := 65536

/-- The tokens of a row. -/
def rowTokens (cellName cellTag : String) (cells : List Text) : List Token :=
  .opening "tr_open" "tr" ::
    cells.flatMap (fun cell =>
      [.opening (cellName ++ "_open") cellTag, inlineToken cell,
        .closing (cellName ++ "_close") cellTag]) ++
    [.closing "tr_close" "tr"]

/-- The body rows of a table, each cut or filled up to the number of columns,
and the line after them. -/
def bodyRows (page : Page) (columns : Nat) (stop n : Nat) (added : Int) : List (List Text) × Nat :=
  if _inside : n < stop then
    let text := trimSpacing (page.text n)
    let cells := rowCells text
    let added := added + (columns - cells.length)
    if page.isOutdented n || page.interruptsQuote n || text.isEmpty || page.isCode n ||
        maxAddedCells < added then
      ([], n)
    else
      let (rows, next) := page.bodyRows columns stop (n + 1) added
      let row := (cells.take columns).map trimSpacing ++ List.replicate (columns - cells.length) []
      (row :: rows, next)
  else ([], n)
termination_by stop - n

/-- A table. -/
def readTable (page : Page) (header : List Text) (stop n : Nat) : Reading :=
  let (rows, next) := page.bodyRows header.length stop (n + 2) 0
  let body := rows.flatMap (rowTokens "td" "td")
  { tokens :=
      [.opening "table_open" "table", .opening "thead_open" "thead"] ++
        rowTokens "th" "th" header ++ [.closing "thead_close" "thead"] ++
        (if rows.isEmpty then []
          else .opening "tbody_open" "tbody" :: body ++ [.closing "tbody_close" "tbody"]) ++
        [.closing "table_close" "table"]
    next }

/-! ## Quotes -/

/-- The position and the column after the blanks that indent from a position
on. -/
def afterBlanks (source : Source) (stop : Nat) (base : Int) (pos : Nat) (column : Int) :
    Nat × Int :=
  if _inside : pos < stop then
    match source[pos]? with
    | some ' ' => afterBlanks source stop base (pos + 1) (column + 1)
    | some '\t' => afterBlanks source stop base (pos + 1) (column + 4 - (column + base) % 4)
    | _ => (pos, column)
  else (pos, column)
termination_by stop - pos

/-- A line that begins with the marker of a quote, as the quote sees it. One
blank after the marker belongs to it; of a tab, one column does. -/
def quotedLine (source : Source) (line : Line) : Line :=
  let after := line.first + 1
  let column := line.column + 1
  let isSpace := source[after]? == some ' '
  let isTab := source[after]? == some '\t'
  let isNarrowTab := isTab && (line.base + column) % 4 == 3
  let taken : Nat := if isSpace || isNarrowTab then 1 else 0
  let shift : Int := if isTab && !isNarrowTab then 1 else 0
  let start := after + taken
  let initial := column + taken
  let (first, reached) := afterBlanks source line.stop (line.base + shift) start initial
  { start, stop := line.stop, lead := first - start, column := reached - initial
    base := line.column + 1 + (if isSpace || isTab then 1 else 0) }

/-- The page of a quote's content, and the line after its last line. The quote
goes through the line before `n`; `page` is the page around it, `inner` what is
known of the content, `lastEmpty` whether the last line of the quote is
empty. -/
def quotePage (page inner : Page) (stop : Nat) (lastEmpty : Bool) (n : Nat) : Page × Nat :=
  if _inside : n < stop then
    let line := page.line n
    if line.isEmpty then (inner, n)
    else if page.firstChar? n == some '>' && !page.isOutdented n then
      let quoted := quotedLine page.source line
      page.quotePage { inner with lines := inner.lines.setIfInBounds n quoted } stop quoted.isEmpty
        (n + 1)
    else if lastEmpty then (inner, n)
    else if page.interruptsQuote n then
      let seen := { line with column := line.column - page.indent }
      ({ inner with lines := inner.lines.setIfInBounds n seen, limit := n }, n)
    else
      let lazyLine := { line with column := -1 }
      page.quotePage { inner with lines := inner.lines.setIfInBounds n lazyLine } stop lastEmpty
        (n + 1)
  else (inner, n)
termination_by stop - n

/-- A quote. -/
def readQuote (content : Reader) (page : Page) (stop n : Nat) : Reading :=
  let quoted := quotedLine page.source (page.line n)
  let start := { page with lines := page.lines.setIfInBounds n quoted, indent := 0 }
  let (inner, last) := page.quotePage start stop quoted.isEmpty (n + 1)
  let reading := content inner n last
  { reading with
    tokens :=
      .opening "blockquote_open" "blockquote" :: reading.tokens ++
        [.closing "blockquote_close" "blockquote"] }

/-! ## Lists -/

/-- The page of a list item's content, and whether the item is empty on its
first line. The content begins after the blanks that follow the marker, or one
column after the marker if it is empty or begins with code. -/
def itemPage (page : Page) (marker : Marker) (n : Nat) : Page × Bool :=
  let line := page.line n
  let initial := line.column + (marker.after - line.first : Nat)
  let (first, column) := afterBlanks page.source line.stop line.base marker.after initial
  let isEmpty := line.stop ≤ first
  let gap := if isEmpty || 4 < column - initial then 1 else column - initial
  let inner := { line with lead := first - line.start, column }
  ({ page with
      lines := page.lines.setIfInBounds n inner
      indent := initial + gap
      listIndent := some page.indent }, isEmpty)

/-- The marker with which the list goes on at a line, if it does. -/
def nextMarker? (page : Page) (marker : Marker) (stop n : Nat) : Option Marker :=
  if stop ≤ n || page.isOutdented n || page.isCode n || page.interruptsItem n then none
  else
    let next? := if marker.number.isSome then page.number? n else page.bullet? n
    next?.filter (·.mark == marker.mark)

/-- The items of a list from a line on. -/
def readItems (content : Reader) (page : Page) (stop : Nat) (marker : Marker) (n : Nat) : Reading :=
  let (inner, isEmpty) := page.itemPage marker n
  let item : Reading :=
    if isEmpty && page.isEmpty (n + 1) then { next := min (n + 2) stop } else content inner n stop
  let tokens := .opening "list_item_open" "li" :: item.tokens ++ [.closing "list_item_close" "li"]
  match page.nextMarker? marker stop item.next with
  | some next =>
      if _forward : n < item.next ∧ item.next < stop then
        let later := readItems content page stop next item.next
        { tokens := tokens ++ later.tokens
          definitions := item.definitions ++ later.definitions
          next := later.next }
      else { item with tokens }
  | none => { item with tokens }
termination_by stop - n
decreasing_by exact Nat.sub_lt_sub_left (Nat.lt_trans _forward.1 _forward.2) _forward.1

/-- A list. -/
def readList (content : Reader) (page : Page) (marker : Marker) (stop n : Nat) : Reading :=
  let (name, tag) :=
    if marker.number.isSome then ("ordered_list", "ol") else ("bullet_list", "ul")
  let items := readItems content page stop marker n
  { items with
    tokens :=
      .opening (name ++ "_open") tag :: items.tokens ++ [.closing (name ++ "_close") tag] }

/-! ## All blocks -/

/-- The block that begins on a line. -/
def readBlock (quote item : Reader) (page : Page) (stop n : Nat) : Reading :=
  if let some header := page.tableHeader? stop n then page.readTable header stop n
  else if page.isCode n then page.readCode stop n
  else if let some fence := page.fence? n then page.readFence fence stop n
  else if page.isQuote n then readQuote quote page stop n
  else if page.isRule n then { tokens := [.leaf "hr"], next := n + 1 }
  else if let some marker := page.listStart? false n then readList item page marker stop n
  else if let some (definition, next) := page.definition? n then
    { definitions := [definition], next }
  else if let some start := page.html? n then page.readHtml start stop n
  else if let some (level, content) := page.heading? n then
    { tokens := headingTokens level content, next := n + 1 }
  else if let some (level, last) := page.underlineEnd? stop (n + 1) then
    { tokens := headingTokens level (page.paragraphText n last), next := last + 1 }
  else page.readParagraph n

/-- The blocks from a line on: until a line is indented less than the content
of the page. -/
def readLines (quote item : Reader) (page : Page) (n stop : Nat) : Reading :=
  if _inside : n < stop then
    let first := page.skipEmpty n
    if stop ≤ first || page.isOutdented first then { next := first }
    else
      let block := readBlock quote item page stop first
      let next :=
        if block.next < stop && page.isEmpty block.next then block.next + 1 else block.next
      if _forward : n < next then
        let later := readLines quote item page next stop
        { tokens := block.tokens ++ later.tokens
          definitions := block.definitions ++ later.definitions
          next := later.next }
      else block
  else { next := n }
termination_by stop - n
decreasing_by exact Nat.sub_lt_sub_left _inside _forward

/-- Skip the content of a page that is too deep. -/
def skipLines (page : Page) (n stop : Nat) : Reading :=
  let first := page.skipEmpty n
  if stop ≤ first || page.isOutdented first then { next := first } else { next := stop }

/-- Read the content of a page with the given number of levels left. A quote
takes one level, a list and its item two. -/
def read : Nat → Reader
  | 0 => skipLines
  | 1 => readLines skipLines skipLines
  | levels + 2 => readLines (read (levels + 1)) (read levels)

end Page

/-- The most levels of nesting that are read. -/
def maxNesting : Nat := 20

/-- The block tokens of a source and its link definitions. -/
def readBlocks (source : Source) : Reading :=
  let page := Page.ofSource source
  Page.read maxNesting page 0 page.lines.size

end DocPress.Markdown
