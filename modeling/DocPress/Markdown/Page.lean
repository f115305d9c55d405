import DocPress.Markdown.Html
import DocPress.Markdown.Source

/-!
# What begins on a line

A page is a source as a container sees it: its lines with the marks of the
containers around, the indentation its content needs, and how far it may read.
This module recognises, for one line of a page, every kind of block that can
begin there, and says which of them can follow another block without a blank
line.
-/

namespace DocPress.Markdown

/-- A source as the content of a container. -/
structure Page where
  /-- The characters. -/
  source : Source
  /-- The lines, with the marks of the containers around. -/
  lines : Array Line
  /-- Paragraphs end before this line. -/
  limit : Nat
  /-- The column at which content of the container begins. -/
  indent : Int := 0
  /-- The column at which the list around begins, if there is one. -/
  listIndent : Option Int := none

namespace Page

/-- The page of a whole source. -/
def ofSource (source : Source) : Page :=
  let lines := sourceLines source
  { source, lines, limit := lines.size }

/-- A line of a page; beyond the last one, an empty line at the end. -/
def line (page : Page) (n : Nat) : Line :=
  page.lines.getD n ⟨page.source.size, page.source.size, 0, 0, 0⟩

/-- Whether a line is empty. -/
def isEmpty (page : Page) (n : Nat) : Bool :=
  (page.line n).isEmpty

/-- The first line at or after the given one that is not empty. -/
def skipEmpty (page : Page) (n : Nat) : Nat :=
  if _inside : n < page.limit then
    if page.isEmpty n then page.skipEmpty (n + 1) else n
  else n
termination_by page.limit - n

/-- Whether a line is indented so far that it is code. -/
def isCode (page : Page) (n : Nat) : Bool :=
  4 ≤ (page.line n).column - page.indent

/-- Whether a line is indented less than the content of the container. -/
def isOutdented (page : Page) (n : Nat) : Bool :=
  (page.line n).column < page.indent

/-- The first character of a line that is no leading blank. -/
def firstChar? (page : Page) (n : Nat) : Option Char :=
  page.source[(page.line n).first]?

/-- The text of a line without its leading blanks. -/
def text (page : Page) (n : Nat) : Text :=
  (page.line n).text page.source

/-- Lines from one to before another without an indentation. The end of the last
line is included if wanted. -/
def linesText (page : Page) (indent : Int) (lastEnd : Bool) (start stop : Nat) : Text :=
  (List.range' start (stop - start)).flatMap fun n =>
    unindented page.source (page.line n) indent (n + 1 < stop || lastEnd)

/-! ## Fences -/

/-- The opening of a fenced code block. -/
structure Fence where
  /-- The character it is made of. -/
  mark : Char
  /-- How many of them there are. -/
  length : Nat

/-- The fence that opens on a line. -/
def fence? (page : Page) (n : Nat) : Option Fence :=
  let line := page.line n
  if page.isCode n || line.stop < line.first + 3 then none
  else
    match page.source[line.first]? with
    | some mark =>
        let after := page.source.skip (· == mark) line.first
        if (mark == '~' || mark == '\x60') && 3 ≤ after - line.first &&
            !(mark == '\x60' && (page.source.slice after line.stop).contains '\x60') then
          some { mark, length := after - line.first }
        else none
    | none => none

/-- Whether a line closes a fence. -/
def closesFence (page : Page) (fence : Fence) (n : Nat) : Bool :=
  let line := page.line n
  let after := page.source.skip (· == fence.mark) line.first
  page.firstChar? n == some fence.mark && !page.isCode n && fence.length ≤ after - line.first &&
    line.stop ≤ page.source.skip isIndent after

/-- The line at which the content of a fence ends, and the line after the
fenced block. -/
def fenceEnd (page : Page) (fence : Fence) (stop n : Nat) : Nat × Nat :=
  if _inside : n < stop then
    if (!page.isEmpty n && page.isOutdented n) || (page.firstChar? n).isNone then (n, n)
    else if page.closesFence fence n then (n, n + 1)
    else page.fenceEnd fence stop (n + 1)
  else (n, n)
termination_by stop - n

/-! ## Quotes, thematic breaks and headings -/

/-- Whether a line begins with the marker of a quote. -/
def isQuote (page : Page) (n : Nat) : Bool :=
  !page.isCode n && page.firstChar? n == some '>'

/-- Whether a line is a thematic break: at least three equal marks and blanks. -/
def isRule (page : Page) (n : Nat) : Bool :=
  !page.isCode n &&
    match page.firstChar? n with
    | some mark =>
        (mark == '*' || mark == '-' || mark == '_') &&
          (page.text n).all (fun c => c == mark || isIndent c) &&
          3 ≤ (page.text n).count mark
    | none => false

/-- A text without the blanks that indent at its end. -/
def dropIndentEnd (text : Text) : Text :=
  (text.reverse.dropWhile isIndent).reverse

/-- The content of a heading, from after its number signs: a run of number signs
after a blank at the end is taken off. -/
def headingContent (text : Text) : Text :=
  let text := dropIndentEnd text
  let signs := text.reverse.takeWhile (· == '#')
  let before := (text.take (text.length - signs.length))
  trimSpacing (if (before.getLast?.map isIndent).getD false then before else text)

/-- The level and the content of the heading on a line. -/
def heading? (page : Page) (n : Nat) : Option (Nat × Text) :=
  let text := page.text n
  let level := (text.takeWhile (· == '#')).length
  let rest := text.drop level
  if !page.isCode n && 1 ≤ level && level ≤ 6 && (rest.head?.map isIndent).getD true then
    some (level, headingContent rest)
  else none

/-- The level of the heading that a line underlines. -/
def underline? (page : Page) (n : Nat) : Option Nat :=
  let line := page.line n
  match page.firstChar? n with
  | some mark =>
      if !page.isOutdented n && !line.isEmpty && (mark == '-' || mark == '=') &&
          line.stop ≤ page.source.skip isIndent (page.source.skip (· == mark) line.first) then
        some (if mark == '=' then 1 else 2)
      else none
  | none => none

/-! ## Lists -/

/-- The marker of a list item. -/
structure Marker where
  /-- The number of the item, if it is numbered. -/
  number : Option Nat
  /-- The character that ends the marker. -/
  mark : Char
  /-- The position after the marker. -/
  after : Nat

/-- Whether a marker that ends at a position is followed by a blank or by the
end of its line. -/
def endsMarker (page : Page) (line : Line) (after : Nat) : Bool :=
  line.stop ≤ after || (page.source[after]?.map isIndent).getD false

/-- The bullet at the start of a line. -/
def bullet? (page : Page) (n : Nat) : Option Marker :=
  let line := page.line n
  match page.firstChar? n with
  | some mark =>
      if (mark == '*' || mark == '-' || mark == '+') && page.endsMarker line (line.first + 1) then
        some { number := none, mark, after := line.first + 1 }
      else none
  | none => none

/-- The number at the start of a line: at most nine digits, and a period or a
closing parenthesis. -/
def number? (page : Page) (n : Nat) : Option Marker :=
  let line := page.line n
  let digits := (page.text n).takeWhile Char.isDigit
  let after := line.first + digits.length + 1
  match (page.text n)[digits.length]? with
  | some mark =>
      if 1 ≤ digits.length && digits.length ≤ 9 && (mark == '.' || mark == ')') &&
          page.endsMarker line after then
        some { number := some (decimalNumber digits), mark, after }
      else none
  | none => none

/-- The marker at the start of a line. -/
def marker? (page : Page) (n : Nat) : Option Marker :=
  match page.number? n with
  | some marker => some marker
  | none => page.bullet? n

/-- The marker with which a list begins on a line. A list that interrupts a
paragraph begins with the number one, if it is numbered, and with an item that
is not empty. -/
def listStart? (page : Page) (interrupting : Bool) (n : Nat) : Option Marker :=
  let line := page.line n
  let continues := match page.listIndent with
    | some indent => 4 ≤ line.column - indent && page.isOutdented n
    | none => false
  if page.isCode n || continues then none
  else
    match page.marker? n with
    | some marker =>
        let strict := interrupting && !page.isOutdented n
        if strict && (marker.number.getD 1 != 1 ||
            line.stop ≤ page.source.skip isIndent marker.after) then none
        else some marker
    | none => none

/-! ## HTML -/

/-- The way in which a block of HTML begins on a line. -/
def html? (page : Page) (n : Nat) : Option Html.BlockStart :=
  if page.isCode n || page.firstChar? n != some '<' then none else Html.BlockStart.of? (page.text n)

/-! ## Tables -/

/-- Whether a character can stand in a delimiter row. -/
def isDelimiterChar (c : Char) : Bool :=
  c == '|' || c == '-' || c == ':'

/-- Whether a text is a cell of a delimiter row: hyphens, perhaps with a colon at
either end. -/
def isDelimiter (cell : Text) : Bool :=
  let cell := match cell with
    | ':' :: rest => rest
    | cell => cell
  let hyphens := dropTrailingOnce ':' cell
  !hyphens.isEmpty && hyphens.all (· == '-')

/-- Drop the first piece of a row if it fits. -/
def dropFirst (fits : Text → Bool) : List Text → List Text
  | [] => []
  | piece :: rest => if fits piece then rest else piece :: rest

/-- Drop the first and the last piece of a row if they are empty. -/
def dropEdges (pieces : List Text) : List Text :=
  (dropFirst List.isEmpty (dropFirst List.isEmpty pieces).reverse).reverse

/-- How many columns a delimiter row has, if the text is one. -/
def delimiterCount? (text : Text) : Option Nat :=
  match text with
  | a :: b :: rest =>
      if isDelimiterChar a && (isDelimiterChar b || isIndent b) && !(a == '-' && isIndent b) &&
          rest.all (fun c => isDelimiterChar c || isIndent c) then
        let cells := (splitAt '|' text).map trimSpacing
        let empty := List.isEmpty (α := Char)
        let inner := (dropFirst empty (dropFirst empty cells).reverse).reverse
        if inner.all isDelimiter then some inner.length else none
      else none
  | _ => none

/-- The pieces of a row between its bars. A bar after a backslash is no border,
and loses the backslash. `piece` is the current piece in reverse, `escaped` says
whether a backslash stands before. -/
def rowPieces (piece : Text) (escaped : Bool) : Text → List Text
  | [] => [piece.reverse]
  | '|' :: rest =>
      if escaped then rowPieces ('|' :: piece.drop 1) false rest
      else piece.reverse :: rowPieces [] false rest
  | c :: rest => rowPieces (c :: piece) (c == '\\') rest

/-- The cells of a row. -/
def rowCells (text : Text) : List Text :=
  dropEdges (rowPieces [] false (trimSpacing text))

/-- The header cells of the table that begins on a line. -/
def tableHeader? (page : Page) (stop n : Nat) : Option (List Text) :=
  if stop < n + 2 || page.isOutdented (n + 1) || page.isCode (n + 1) then none
  else
    match delimiterCount? (page.text (n + 1)) with
    | some columns =>
        let header := trimSpacing (page.text n)
        let cells := rowCells header
        if header.contains '|' && !page.isCode n && cells.length != 0 &&
            cells.length == columns then
          some (cells.map trimSpacing)
        else none
    | none => none

/-! ## Interruptions -/

/-- Whether a line ends the item of a list before it. -/
def interruptsItem (page : Page) (n : Nat) : Bool :=
  (page.fence? n).isSome || page.isQuote n || page.isRule n

/-- Whether a line begins a block that ends a quote or a table. -/
def interruptsQuote (page : Page) (n : Nat) : Bool :=
  page.interruptsItem n || (page.listStart? false n).isSome ||
    ((page.html? n).map Html.BlockStart.interrupts).getD false || (page.heading? n).isSome

/-- Whether a line begins a block that ends a link definition. -/
def interruptsDefinition (page : Page) (stop n : Nat) : Bool :=
  (page.tableHeader? stop n).isSome || page.interruptsQuote n

/-- Whether a line begins a block that ends a paragraph. -/
def interruptsParagraph (page : Page) (stop n : Nat) : Bool :=
  (page.tableHeader? stop n).isSome || page.interruptsItem n || (page.listStart? true n).isSome ||
    ((page.html? n).map Html.BlockStart.interrupts).getD false || (page.heading? n).isSome

/-- Whether a line goes on with the paragraph before it whatever stands on it:
it is indented as code would be, or a lazy line of a quote. -/
def continuesParagraph (page : Page) (n : Nat) : Bool :=
  page.isCode n || (page.line n).column < 0

end Page

end DocPress.Markdown
