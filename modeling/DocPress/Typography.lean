import DocPress.Text.Integer
import DocPress.Text.Word

/-!
# Typographic punctuation

Straight quotes, apostrophes, dots in threes and runs of hyphens become their
typographic forms before a source is read as Markdown. The filter goes line by
line. A line whose hyphens are structure (the delimiter row of a table, a
thematic break) is left as it is.

Every step scans its line from left to right; the characters beside a mark are
taken up with it, so they cannot also stand beside the next mark.
-/

namespace DocPress.Typography

/-- U+2014. -/
def emDash : Char := '—'

/-- U+2013. -/
def enDash : Char := '–'

/-- U+2026. -/
def ellipsis : Char := '…'

/-- U+201C. -/
def leftDoubleQuote : Char := '“'

/-- U+201D. -/
def rightDoubleQuote : Char := '”'

/-- U+2018. -/
def leftSingleQuote : Char := '‘'

/-- U+2019. -/
def rightSingleQuote : Char := '’'

/-! ## Lines left as they are -/

/-- A text without one given character at its start, if it is there. -/
def dropLeadingOnce (c : Char) : Text → Text
  | [] => []
  | first :: rest => if first = c then rest else first :: rest

/-- Whether a text is one cell of a delimiter row: hyphens, with a colon at
either end if wanted, and blanks around them. -/
def isDelimiterCell (cell : Text) : Bool :=
  let hyphens := dropTrailingOnce ':' (dropLeadingOnce ':' (trim cell))
  !hyphens.isEmpty && hyphens.all (· == '-')

/-- The pieces of a row between its bars, without the empty pieces that a bar
at either end of the row leaves. -/
def rowPieces (row : Text) : List Text :=
  let pieces := splitAt '|' row
  let pieces := match pieces with
    | [] :: rest => rest
    | pieces => pieces
  match pieces.reverse with
  | [] :: rest => rest.reverse
  | _ => pieces

/-- Whether a trimmed line is the delimiter row of a table. -/
def isDelimiterRow (line : Text) : Bool :=
  let pieces := rowPieces line
  !pieces.isEmpty && pieces.all isDelimiterCell

/-- Whether a trimmed line consists of at least three equal rule characters. -/
def isRuleLine (line : Text) : Bool :=
  3 ≤ line.length &&
    (line.all (· == '-') || line.all (· == '_') || line.all (· == '*'))

/-- Whether the filter leaves a line as it is. -/
def isExempt (line : Text) : Bool :=
  isDelimiterRow (trim line) || isRuleLine (trim line)

/-! ## The steps -/

/-- Replace a pattern by a mark wherever a character of one kind stands before
the pattern and a character of another kind after it. -/
def replaceBetween (before after : Char → Bool) (pattern : Text) (mark : Char) : Text → Text
  | [] => []
  | c :: rest =>
      if before c then
        match _found : dropLeading? pattern rest with
        | some (d :: tail) =>
            if after d then c :: mark :: d :: replaceBetween before after pattern mark tail
            else c :: replaceBetween before after pattern mark rest
        | _ => c :: replaceBetween before after pattern mark rest
      else c :: replaceBetween before after pattern mark rest
termination_by text => text.length
decreasing_by
  all_goals simp_wf
  have := dropLeading?_length _found
  simp only [List.length_cons] at this
  omega

/-- Whether a quote after this character can open a quotation. -/
def precedesOpening (c : Char) : Bool :=
  isBlank c || c == '('

/-- Replace a straight quote that opens a quotation inside a line: one after a
blank or an opening parenthesis and before a character that is not blank. -/
def openInside (quote mark : Char) : Text → Text
  | c :: q :: d :: tail =>
      if precedesOpening c && q == quote && !isBlank d then
        c :: mark :: d :: openInside quote mark tail
      else c :: openInside quote mark (q :: d :: tail)
  | text => text
termination_by text => text.length

/-- Replace the straight quotes that open a quotation, the first character of
the line included. -/
def openQuotes (quote mark : Char) : Text → Text
  | q :: d :: tail =>
      if q == quote && !isBlank d then mark :: d :: openInside quote mark tail
      else openInside quote mark (q :: d :: tail)
  | text => text

/-- Replace one character everywhere. -/
def replaceChar (c mark : Char) (text : Text) : Text :=
  text.map fun d => if d = c then mark else d

/-- Whether a character is not blank. -/
def isInk (c : Char) : Bool :=
  !isBlank c

/-- Hyphens beside text become dashes: three an em dash, two an en dash. -/
def dashes (line : Text) : Text :=
  let line := replaceBetween isInk isInk "---".toList emDash line
  let line := replaceBetween isInk isBlank "---".toList emDash line
  let line := replaceBetween isBlank isInk "---".toList emDash line
  let line := replaceBetween isDigit isDigit "--".toList enDash line
  replaceBetween isInk isInk "--".toList enDash line

/-- Three dots become an ellipsis. -/
def ellipses (line : Text) : Text :=
  replaceAll "...".toList [ellipsis] line

/-- Straight double quotes become curly ones. -/
def doubleQuotes (line : Text) : Text :=
  replaceChar '"' rightDoubleQuote (openQuotes '"' leftDoubleQuote line)

/-- Straight single quotes become curly ones; between word characters they are
apostrophes. -/
def singleQuotes (line : Text) : Text :=
  let line := replaceBetween isWord isWord ['\''] rightSingleQuote line
  replaceChar '\'' rightSingleQuote (openQuotes '\'' leftSingleQuote line)

/-- The filter on one line. -/
def filterLine (line : Text) : Text :=
  if isExempt line then line else singleQuotes (doubleQuotes (ellipses (dashes line)))

/-- The filter on a text, line by line. -/
def filter (text : Text) : Text :=
  joinLines ((textLines text).map filterLine)

end DocPress.Typography
