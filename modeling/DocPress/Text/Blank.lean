import DocPress.Text.Basic

/-!
# Blank characters

A blank is a character that Unicode counts as white space, or one of the four
information separators. Trimming takes blanks off both ends of a text. Two
narrower classes leave out control characters: spacing characters are what is
trimmed from Markdown, and ASCII blanks are what ends a name in HTML.
-/

namespace DocPress

/-- A set of characters, given by inclusive ranges of code points. -/
abbrev CodeRanges := List (Nat × Nat)

/-- Whether a character lies in one of the ranges. -/
def CodeRanges.contains (ranges : CodeRanges) (c : Char) : Bool :=
  ranges.any fun range => range.1 ≤ c.toNat && c.toNat ≤ range.2

/-! ## Classes -/

/-- The code points of the blank characters. -/
def blankRanges : CodeRanges :=
  [(0x9, 0xD), (0x1C, 0x20), (0x85, 0x85), (0xA0, 0xA0), (0x1680, 0x1680), (0x2000, 0x200A),
    (0x2028, 0x2029), (0x202F, 0x202F), (0x205F, 0x205F), (0x3000, 0x3000)]

/-- Whether a character is blank. -/
def isBlank (c : Char) : Bool :=
  blankRanges.contains c

/-- Whether a character is one of the four information separators. -/
def isInformationSeparator (c : Char) : Bool :=
  0x1C ≤ c.toNat && c.toNat ≤ 0x1F

/-- Whether a character is a space, a tab or another control character that
moves on in a text of ASCII. -/
def isAsciiBlank (c : Char) : Bool :=
  c == ' ' || (0x9 ≤ c.toNat && c.toNat ≤ 0xD)

/-- Whether a character is a blank other than the information separators and the
control character for the next line. -/
def isSpacing (c : Char) : Bool :=
  isBlank c && !isInformationSeparator c && c.toNat != 0x85

/-! ## Trimming -/

/-- A text without the characters of a class at either end. -/
def trimWhere (isMargin : Char → Bool) (text : Text) : Text :=
  ((text.dropWhile isMargin).reverse.dropWhile isMargin).reverse

/-- A text without the blanks at either end. -/
def trim (text : Text) : Text :=
  trimWhere isBlank text

/-- A text without the spacing characters at either end. -/
def trimSpacing (text : Text) : Text :=
  trimWhere isSpacing text

end DocPress
