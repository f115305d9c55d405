import DocPress.Json.Reader
import DocPress.Markdown.EntityNames
import DocPress.Text.Punctuation

/-!
# Escaped characters

A backslash escapes a punctuation character, and a character reference names a
character or gives its code point. This module reads references and resolves
both forms in link destinations and titles.
-/

namespace DocPress.Markdown

/-- Whether a number is the code point of a character that a reference may
name: no surrogate, no noncharacter and no control character other than blanks
and the delete range. -/
def isReferable (code : Nat) : Bool :=
  !((0xD800 ≤ code && code ≤ 0xDFFF) || (0xFDD0 ≤ code && code ≤ 0xFDEF) ||
    code % 0x10000 == 0xFFFF || code % 0x10000 == 0xFFFE || code ≤ 0x08 || code == 0x0B ||
    (0x0E ≤ code && code ≤ 0x1F) || (0x7F ≤ code && code ≤ 0x9F) || 0x10FFFF < code)

/-- The character of a numeric reference; U+FFFD stands in for a code point that
must not be named. -/
def referredChar (code : Nat) : Char :=
  if isReferable code then Char.ofNat code else '\uFFFD'

/-- Whether a character is a letter of ASCII. -/
def isAsciiLetter (c : Char) : Bool :=
  c.isAlpha

/-- Whether a character is a letter or a digit of ASCII. -/
def isAsciiAlphanumeric (c : Char) : Bool :=
  c.isAlphanum

/-- Whether a character is a hexadecimal digit. -/
def isHexDigit (c : Char) : Bool :=
  (Json.hexValue? c).isSome

/-- The number that hexadecimal digits write. -/
def hexNumber (digits : Text) : Nat :=
  digits.foldl (fun total c => 16 * total + (Json.hexValue? c).getD 0) 0

/-- The number that decimal digits write. -/
def decimalNumber (digits : Text) : Nat :=
  Json.digitsValue digits

/-- The character reference at the start of a text: its characters and its
length. A numeric reference has at most seven decimal or six hexadecimal
digits. -/
def reference? (text : Text) : Option (Text × Nat) :=
  let numeric (digits after : Text) (limit lead code : Nat) : Option (Text × Nat) :=
    if 1 ≤ digits.length && digits.length ≤ limit && after.head? == some ';' then
      some ([referredChar code], lead + digits.length + 1)
    else none
  match text with
  | '&' :: '#' :: x :: rest =>
      if x = 'x' || x = 'X' then
        let digits := rest.takeWhile isHexDigit
        numeric digits (rest.drop digits.length) 6 3 (hexNumber digits)
      else
        let digits := (x :: rest).takeWhile Char.isDigit
        numeric digits ((x :: rest).drop digits.length) 7 2 (decimalNumber digits)
  | '&' :: rest =>
      let name := rest.takeWhile isAsciiAlphanumeric
      if (rest.drop name.length).head? == some ';' then
        (namedEntity? name).map fun chars => (chars, name.length + 2)
      else none
  | _ => none

/-- The characters of a reference between its ampersand and its semicolon, in
a destination or a title; here a number may have eight digits, and one that
names no character stays as it is. -/
def namedOrNumbered? (name : Text) : Option Text :=
  match namedEntity? name with
  | some chars => some chars
  | none =>
      let code? :=
        match name with
        | '#' :: x :: digits =>
            if (x = 'x' || x = 'X') && !digits.isEmpty && digits.length ≤ 8 &&
                digits.all isHexDigit then
              some (hexNumber digits)
            else if (x :: digits).length ≤ 8 && (x :: digits).all Char.isDigit then
              some (decimalNumber (x :: digits))
            else none
        | _ => none
      match code? with
      | some code => if isReferable code then some [Char.ofNat code] else none
      | none => none

/-- Whether a text can stand between the ampersand and the semicolon of a
reference. -/
def isReferenceName : Text → Bool
  | c :: rest =>
      (isAsciiLetter c || c == '#') && 1 ≤ rest.length && rest.length ≤ 31 &&
        rest.all isAsciiAlphanumeric
  | [] => false

/-- A text with its escapes and references resolved. -/
def unescape : Text → Text
  | [] => []
  | '\\' :: c :: rest =>
      if isAsciiPunctuation c then c :: unescape rest else '\\' :: unescape (c :: rest)
  | '&' :: rest =>
      let name := rest.takeWhile (· != ';')
      if isReferenceName name && name.length < rest.length then
        match namedOrNumbered? name with
        | some chars => chars ++ unescape (rest.drop (name.length + 1))
        | none => '&' :: name ++ ';' :: unescape (rest.drop (name.length + 1))
      else '&' :: unescape rest
  | c :: rest => c :: unescape rest
termination_by text => text.length
decreasing_by
  all_goals simp only [List.length_cons, List.length_drop]
  all_goals omega

end DocPress.Markdown
