import DocPress.Text.Basic

/-!
# Sources and their lines

A source is Markdown with line ends in one form. It is read through a table of
its lines. A line knows where its content begins, how many blanks lead it, and
at which column its first other character stands. The containers around a block
move these marks: a quote moves the beginning of the content past its marker, a
list item sets the indentation that the content of the item needs.
-/

namespace DocPress.Markdown

/-- The characters of a source. -/
abbrev Source := Array Char

/-- The characters from one position to before another. -/
def Source.slice (source : Source) (start stop : Nat) : Text :=
  (source.extract start stop).toList

/-- Whether a character is a blank that can indent a line. -/
def isIndent (c : Char) : Bool :=
  c == ' ' || c == '\t'

/-- The first position at or after the given one whose character is outside a
class. -/
def Source.skip (source : Source) (accepts : Char → Bool) (pos : Nat) : Nat :=
  if _inside : pos < source.size then
    if accepts source[pos] then source.skip accepts (pos + 1) else pos
  else pos
termination_by source.size - pos

/-- A line of a source as the block around it sees it. -/
structure Line where
  /-- Where the content of the line begins. -/
  start : Nat
  /-- Where the line ends. -/
  stop : Nat
  /-- How many blanks lead the content. -/
  lead : Nat
  /-- The column of the first other character, counted from the content's
  beginning. It is negative for a line that can only continue a paragraph. -/
  column : Int
  /-- The column of the source at which the content begins. -/
  base : Int
  deriving Inhabited

namespace Line

/-- The position of the first character that is no leading blank. -/
def first (line : Line) : Nat :=
  line.start + line.lead

/-- Whether a line holds nothing but blanks. -/
def isEmpty (line : Line) : Bool :=
  line.stop ≤ line.first

/-- The characters of a line without its leading blanks. -/
def text (line : Line) (source : Source) : Text :=
  source.slice line.first line.stop

end Line

/-- The column after a tab that stands at a column. -/
def tabStop (column : Int) : Int :=
  column + 4 - column % 4

/-- The lines of a source, read character by character: `start` is where the
current line begins, `pos` where the text given begins. Blanks at the very end
of a source are no line. -/
def linesFrom (start pos lead : Nat) (column : Int) (leading : Bool) : Text → List Line
  | [] => if leading then [] else [⟨start, pos, lead, column, 0⟩]
  | c :: rest =>
      if leading && c == ' ' then linesFrom start (pos + 1) (lead + 1) (column + 1) true rest
      else if leading && c == '\t' then
        linesFrom start (pos + 1) (lead + 1) (tabStop column) true rest
      else if c == '\n' then
        ⟨start, pos, lead, column, 0⟩ :: linesFrom (pos + 1) (pos + 1) 0 0 true rest
      else linesFrom start (pos + 1) lead column false rest

/-- The lines of a source. -/
def sourceLines (source : Source) : Array Line :=
  (linesFrom 0 0 0 0 true source.toList).toArray

/-- The position to which a line is indented when an indentation is taken off
it, and the column reached there. A tab can reach beyond the indentation. -/
def indentEnd (source : Source) (line : Line) (indent : Int) (stop pos : Nat) (column : Int) :
    Nat × Int :=
  if _more : pos < stop then
    if column < indent then
      match source[pos]? with
      | some c =>
          if c == '\t' then
            indentEnd source line indent stop (pos + 1) (column + 4 - (column + line.base) % 4)
          else if c == ' ' || pos - line.start < line.lead then
            indentEnd source line indent stop (pos + 1) (column + 1)
          else (pos, column)
      | none => (pos, column)
    else (pos, column)
  else (pos, column)
termination_by stop - pos

/-- A line without an indentation; of a tab that reaches beyond it, blanks are
left. The line's end is included if wanted. -/
def unindented (source : Source) (line : Line) (indent : Int) (withEnd : Bool) : Text :=
  let stop := if withEnd then line.stop + 1 else line.stop
  let (pos, column) := indentEnd source line indent stop line.start 0
  List.replicate (column - indent).toNat ' ' ++ source.slice pos stop

end DocPress.Markdown
