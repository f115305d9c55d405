import DocPress.Markdown.Escape
import DocPress.Markdown.HostName
import DocPress.Text.Blank
import DocPress.Text.Quoted

/-!
# Link destinations

A destination is taken apart into scheme, credentials, host, port and the rest,
and put together again in a normal form: blanks around it go, a host name
outside ASCII is written in its ASCII form, and every character that must not
stand in a destination is percent-encoded, but for the brackets around an
address. Destinations with a scheme that can run code are no links. The text of
an autolink is its destination with both encodings undone.
-/

namespace DocPress.Markdown

/-- A destination taken apart. Parts that are missing are empty. -/
structure Url where
  /-- The scheme with its colon. -/
  scheme : Text := []
  /-- Whether two slashes stand before the host. -/
  slashes : Bool := false
  /-- What stands before an at sign in front of the host. -/
  credentials : Text := []
  /-- The host name, without the brackets of an address. -/
  host : Text := []
  /-- The port. -/
  port : Text := []
  /-- The path, the query and the fragment. -/
  tail : Text := []

namespace Url

/-! ## Taking a destination apart -/

/-- Whether a character can stand in a scheme. -/
def isSchemeChar (c : Char) : Bool :=
  isAsciiAlphanumeric c || c == '.' || c == '+' || c == '-'

/-- Whether a character is a letter of ASCII but for its case: four letters
outside ASCII have a letter of ASCII as their other case. -/
def isCaseVariant (c : Char) : Bool :=
  c == '\u0130' || c == '\u0131' || c == '\u017F' || c == '\u212A'

/-- The scheme at the start of a destination, with its colon. Letters may be of
either case. -/
def schemeOf (text : Text) : Text :=
  let name := text.takeWhile fun c => isSchemeChar c || isCaseVariant c
  if !name.isEmpty && (text.drop name.length).head? == some ':' then name ++ [':'] else []

/-- The schemes that have a host only after two slashes. -/
def slashedSchemes : List Text :=
  ["http:".toList, "https:".toList, "ftp:".toList, "gopher:".toList, "file:".toList]

/-- The scheme that never has a host. -/
def hostlessScheme : Text := "javascript:".toList

/-- The characters that end what can be credentials. -/
def endsCredentials (c : Char) : Bool :=
  c == '/' || c == '?' || c == '#'

/-- The characters that end a host name. -/
def endsHost (c : Char) : Bool :=
  ['%', '/', '?', ';', '#', '\'', '\x7b', '\x7d', '|', '\\', '^', '\x60', '<', '>', '"', ' ', '\r',
    '\n', '\t'].contains c

/-- Split a text at the last occurrence of a character. -/
def splitLast? (c : Char) (text : Text) : Option (Text × Text) :=
  let after := (text.reverse.takeWhile (· != c)).reverse
  if after.length < text.length then
    some (text.take (text.length - after.length - 1), after)
  else none

/-- Take the credentials off the front: up to the last at sign before the path,
the query and the fragment. -/
def takeCredentials (rest : Text) : Text × Text :=
  let reach := rest.takeWhile (!endsCredentials ·)
  match splitLast? '@' reach with
  | some (credentials, _) => (credentials, rest.drop (credentials.length + 1))
  | none => ([], rest)

/-- Take the host with its port off the front. A colon right at its end is not
part of it. -/
def takeAuthority (rest : Text) : Text × Text :=
  let authority := dropTrailingOnce ':' (rest.takeWhile (!endsHost ·))
  (authority, rest.drop authority.length)

/-- Split a host from the digits after a colon at its end. -/
def splitPort (authority : Text) : Text × Text :=
  let digits := (authority.reverse.takeWhile Char.isDigit).reverse
  let before := authority.take (authority.length - digits.length)
  match before.reverse with
  | ':' :: host => (host.reverse, digits)
  | _ => (authority, [])

/-- Whether a character can stand in a part of a host name. -/
def isHostChar (c : Char) : Bool :=
  isAsciiAlphanumeric c || c == '+' || c == '_' || c == '-'

/-- The number of characters of a host name's part, and of a whole host name. -/
def maxHostPart : Nat := 63

/-- The greatest length of a host name. -/
def maxHost : Nat := 255

/-- Whether a part of a host name is acceptable; characters outside ASCII
are. -/
def isHostPart (part : Text) : Bool :=
  part.length ≤ maxHostPart && part.all fun c => isHostChar c || 127 < c.toNat

/-- The acceptable front of a host name, by its parts, and the parts after it.
The first part that is not acceptable is itself cut after its longest
acceptable front in ASCII. -/
def splitHostParts : List Text → List Text × List Text
  | [] => ([], [])
  | part :: rest =>
      if isHostPart part then
        let (front, back) := splitHostParts rest
        (part :: front, back)
      else
        let front := (part.takeWhile isHostChar).take maxHostPart
        ([front], part.drop front.length :: rest)

/-- Whether a host name is an address in brackets. -/
def isBracketed (host : Text) : Bool :=
  host.head? == some '[' && host.getLast? == some ']'

/-- A host name and what of it goes to the path: an address loses its brackets,
a name that is not acceptable its back. A host name that is too long is
dropped. -/
def acceptHost (host : Text) : Text × Text :=
  let limited (host : Text) : Text := if maxHost < host.length then [] else host
  if isBracketed host then (((limited host).drop 1).dropLast, [])
  else
    let (front, back) := splitHostParts (splitAt '.' host)
    (limited (HostName.joinDots front), HostName.joinDots back)

/-- A destination taken apart. -/
def parse (text : Text) : Url :=
  let text := trim text
  let scheme := schemeOf text
  let rest := text.drop scheme.length
  let slashes := dropLeading? "//".toList rest
  if asciiLowerScheme scheme = hostlessScheme then { scheme, tail := rest }
  else
    match slashes, scheme.isEmpty || slashedSchemes.contains scheme with
    | none, true => { scheme, tail := rest }
    | _, _ =>
        let (credentials, rest) := takeCredentials (slashes.getD rest)
        let (authority, rest) := takeAuthority rest
        let (host, port) := splitPort authority
        let (host, overflow) := acceptHost host
        { scheme, slashes := slashes.isSome, credentials, host, port, tail := overflow ++ rest }
where
  asciiLowerScheme (scheme : Text) : Text := scheme.map Char.toLower

/-- What stands before the host. -/
def front (url : Url) : Text :=
  url.scheme ++ (if url.slashes then "//".toList else []) ++
    (if url.credentials.isEmpty then [] else url.credentials ++ ['@'])

/-- What stands after the host. -/
def back (url : Url) : Text :=
  (if url.port.isEmpty then [] else ':' :: url.port) ++ url.tail

/-- A destination put together again, each of its parts in an encoding. An
address, which is a host with colons, stands in brackets. -/
def format (encoding : Text → Text) (url : Url) : Text :=
  encoding url.front ++
    (if url.host.contains ':' then '[' :: encoding url.host ++ [']'] else encoding url.host) ++
    encoding url.back

/-! ## Percent-encoding -/

/-- The bytes of a character in UTF-8. -/
def utf8Bytes (c : Char) : List Nat :=
  let code := c.toNat
  if code < 0x80 then [code]
  else if code < 0x800 then [0xC0 + code / 0x40, 0x80 + code % 0x40]
  else if code < 0x10000 then
    [0xE0 + code / 0x1000, 0x80 + code / 0x40 % 0x40, 0x80 + code % 0x40]
  else
    [0xF0 + code / 0x40000, 0x80 + code / 0x1000 % 0x40, 0x80 + code / 0x40 % 0x40,
      0x80 + code % 0x40]

/-- A byte in percent-encoding, with upper-case digits. -/
def percent (byte : Nat) : Text :=
  '%' :: (hexText 2 byte).map Char.toUpper

/-- The punctuation that stands for itself in a destination. -/
def keptPunctuation : Text :=
  ";/?:@&=+$,-_.!~*'()#".toList

/-- Percent-encode what must not stand in a destination; encodings that are
there already are kept. -/
def encode : Text → Text
  | [] => []
  | '%' :: a :: b :: rest =>
      if isHexDigit a && isHexDigit b then '%' :: a :: b :: encode rest
      else percent 0x25 ++ encode (a :: b :: rest)
  | c :: rest =>
      (if isAsciiAlphanumeric c || keptPunctuation.contains c then [c]
        else (utf8Bytes c).flatMap percent) ++ encode rest

/-- The bytes of a run of percent-encodings, and what follows the run. -/
def percentRun : Text → List Nat × Text
  | '%' :: a :: b :: rest =>
      if isHexDigit a && isHexDigit b then
        let (bytes, rest) := percentRun rest
        (hexNumber [a, b] :: bytes, rest)
      else ([], '%' :: a :: b :: rest)
  | text => ([], text)

/-- Whether a byte continues a character in UTF-8. -/
def isContinuation (byte : Nat) : Bool :=
  byte / 0x40 == 2

/-- The character of a complete UTF-8 sequence; `none` if the sequence is
overlong, a surrogate or too great. -/
def sequenceChar? (code least : Nat) : Option Char :=
  if least ≤ code && code ≤ 0x10FFFF && !(0xD800 ≤ code && code ≤ 0xDFFF) then
    some (Char.ofNat code)
  else none

/-- The text of decoded bytes. Reserved characters stay encoded; each byte of a
sequence that is no character becomes U+FFFD. -/
def decodeBytes (reserved : Text) : List Nat → Text
  | [] => []
  | b :: rest =>
      if b < 0x80 then
        (if reserved.contains (Char.ofNat b) then percent b else [Char.ofNat b]) ++
          decodeBytes reserved rest
      else
        match rest with
        | b2 :: b3 :: b4 :: rest' =>
            if b / 0x20 = 6 && isContinuation b2 then
              two b b2 ++ decodeBytes reserved (b3 :: b4 :: rest')
            else if b / 0x10 = 14 && isContinuation b2 && isContinuation b3 then
              three b b2 b3 ++ decodeBytes reserved (b4 :: rest')
            else if b / 8 = 30 && isContinuation b2 && isContinuation b3 && isContinuation b4 then
              four b b2 b3 b4 ++ decodeBytes reserved rest'
            else '\uFFFD' :: decodeBytes reserved (b2 :: b3 :: b4 :: rest')
        | [b2, b3] =>
            if b / 0x20 = 6 && isContinuation b2 then two b b2 ++ decodeBytes reserved [b3]
            else if b / 0x10 = 14 && isContinuation b2 && isContinuation b3 then three b b2 b3
            else '\uFFFD' :: decodeBytes reserved [b2, b3]
        | [b2] =>
            if b / 0x20 = 6 && isContinuation b2 then two b b2
            else '\uFFFD' :: decodeBytes reserved [b2]
        | [] => ['\uFFFD']
where
  /-- The character of two bytes. -/
  two (b b2 : Nat) : Text :=
    match sequenceChar? (b % 0x20 * 0x40 + b2 % 0x40) 0x80 with
    | some c => [c]
    | none => List.replicate 2 '\uFFFD'
  /-- The character of three bytes. -/
  three (b b2 b3 : Nat) : Text :=
    match sequenceChar? ((b % 0x10 * 0x40 + b2 % 0x40) * 0x40 + b3 % 0x40) 0x800 with
    | some c => [c]
    | none => List.replicate 3 '\uFFFD'
  /-- The character of four bytes. -/
  four (b b2 b3 b4 : Nat) : Text :=
    match sequenceChar? (((b % 8 * 0x40 + b2 % 0x40) * 0x40 + b3 % 0x40) * 0x40 + b4 % 0x40)
        0x10000 with
    | some c => [c]
    | none => List.replicate 4 '\uFFFD'

/-- Undo the percent-encoding of all but the reserved characters. -/
def decode (reserved : Text) (text : Text) : Text :=
  match text with
  | [] => []
  | c :: rest =>
      match _run : percentRun (c :: rest) with
      | ([], _) => c :: decode reserved rest
      | (byte :: bytes, after) =>
          if _shorter : after.length < (c :: rest).length then
            decodeBytes reserved (byte :: bytes) ++ decode reserved after
          else c :: decode reserved rest
termination_by text.length
decreasing_by
  all_goals simp only [List.length_cons] at *
  all_goals omega

/-- The characters whose encoding is kept in the text of an autolink. -/
def reservedInText : Text :=
  ";/?:@&=+$,#%".toList

/-! ## Destinations of links -/

/-- The schemes whose hosts are put into ASCII. -/
def recodedSchemes : List Text :=
  [[], "http:".toList, "https:".toList, "mailto:".toList]

/-- Whether the host of a destination is put into ASCII. -/
def isRecoded (url : Url) : Bool :=
  recodedSchemes.contains url.scheme

/-- The normal form of a destination. -/
def normalize (text : Text) : Text :=
  let url := parse text
  { url with host := if url.isRecoded then HostName.encode url.host else url.host }.format encode

/-- The text that shows a destination. -/
def shown (text : Text) : Text :=
  let url := parse text
  let url := { url with host := if url.isRecoded then HostName.decode url.host else url.host }
  decode reservedInText (url.format id)

/-- The schemes that no link may have. -/
def refusedSchemes : List Text :=
  ["vbscript:".toList, "javascript:".toList, "file:".toList, "data:".toList]

/-- The images that may be given as data. -/
def dataImages : List Text :=
  ["data:image/gif;".toList, "data:image/png;".toList, "data:image/jpeg;".toList,
    "data:image/webp;".toList]

/-- Whether a destination may be linked to. -/
def isAllowed (text : Text) : Bool :=
  let text := (trim text).map Char.toLower
  let beginsWith (patterns : List Text) : Bool :=
    patterns.any fun pattern => (dropLeading? pattern text).isSome
  !beginsWith refusedSchemes || beginsWith dataImages

end Url

end DocPress.Markdown
