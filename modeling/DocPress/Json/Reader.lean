import DocPress.Json.Basic
import DocPress.Text.Integer

/-!
# Reading JSON

`Json.read` reads one value with blanks around it and nothing else. Besides
JSON's own numbers it reads `NaN`, `Infinity` and `-Infinity`. A member that is
written twice keeps its first place and its last value. Escaped UTF-16
surrogates are joined in pairs; one that stands alone becomes U+FFFD.
-/

namespace DocPress.Json

/-- Why a text cannot be read. -/
inductive ReadIssue
  /-- It does not write a value. -/
  | malformed
  /-- An integer in it has more digits than are read. -/
  | tooManyDigits
  deriving DecidableEq, Repr

/-- A text without the JSON blanks at its start. -/
def skipBlanks (text : Text) : Text :=
  text.dropWhile fun c => c = ' ' || c = '\t' || c = '\n' || c = '\r'

/-- The value of a hexadecimal digit. -/
def hexValue? (c : Char) : Option Nat :=
  if '0' ≤ c && c ≤ '9' then some (c.toNat - 0x30)
  else if 'a' ≤ c && c ≤ 'f' then some (c.toNat - 0x61 + 10)
  else if 'A' ≤ c && c ≤ 'F' then some (c.toNat - 0x41 + 10)
  else none

/-- The value of four hexadecimal digits, and what follows them. -/
def readHex4? : Text → Option (Nat × Text)
  | a :: b :: c :: d :: rest => do
      let a ← hexValue? a
      let b ← hexValue? b
      let c ← hexValue? c
      let d ← hexValue? d
      return (((a * 16 + b) * 16 + c) * 16 + d, rest)
  | _ => none

/-- The character of an escaped code unit and what follows it; a high surrogate
takes an escaped low surrogate after it into the same character. -/
def readCodeUnit? (text : Text) : Option (Char × Text) := do
  let (unit, rest) ← readHex4? text
  if 0xD800 ≤ unit && unit < 0xDC00 then
    match rest with
    | '\\' :: 'u' :: more =>
        match readHex4? more with
        | some (low, final) =>
            if 0xDC00 ≤ low && low < 0xE000 then
              return (Char.ofNat (0x10000 + (unit - 0xD800) * 0x400 + (low - 0xDC00)), final)
            else return ('\uFFFD', rest)
        | none => return ('\uFFFD', rest)
    | _ => return ('\uFFFD', rest)
  else if 0xDC00 ≤ unit && unit < 0xE000 then return ('\uFFFD', rest)
  else return (Char.ofNat unit, rest)

/-- The character that a letter after a backslash stands for. -/
def escapeChar? (c : Char) : Option Char :=
  match c with
  | '"' => some '"'
  | '\\' => some '\\'
  | '/' => some '/'
  | 'b' => some '\x08'
  | 'f' => some '\x0c'
  | 'n' => some '\n'
  | 'r' => some '\r'
  | 't' => some '\t'
  | _ => none

/-- The rest of a string after its opening quote, collected in reverse, and
what follows the closing quote. Every step takes at least one character, so the
length of the text bounds the steps. -/
def readString? (steps : Nat) (collected : Text) (text : Text) : Option (Text × Text) :=
  match steps, text with
  | 0, _ => none
  | _ + 1, [] => none
  | _ + 1, '"' :: rest => some (collected.reverse, rest)
  | steps + 1, '\\' :: 'u' :: rest => do
      let (c, rest) ← readCodeUnit? rest
      readString? steps (c :: collected) rest
  | steps + 1, '\\' :: c :: rest => do
      readString? steps ((← escapeChar? c) :: collected) rest
  | steps + 1, c :: rest =>
      if c = '\\' || c.toNat < 0x20 then none else readString? steps (c :: collected) rest

/-- The natural number of a run of ASCII digits. -/
def digitsValue (digits : Text) : Nat :=
  digits.foldl (fun total c => 10 * total + (c.toNat - 0x30)) 0

/-- A number and what follows it. An incomplete fraction or exponent is left
to what follows. -/
def readDigits (text : Text) : Except ReadIssue (Numeral × Text) :=
  let (negative, unsigned) :=
    match text with
    | '-' :: rest => (true, rest)
    | _ => (false, text)
  let whole :=
    match unsigned with
    | '0' :: _ => ['0']
    | _ => unsigned.takeWhile Char.isDigit
  if whole.isEmpty then .error .malformed
  else
    let afterWhole := unsigned.drop whole.length
    let fraction :=
      match afterWhole with
      | '.' :: rest => rest.takeWhile Char.isDigit
      | _ => []
    let afterFraction :=
      if fraction.isEmpty then afterWhole else afterWhole.drop (fraction.length + 1)
    let (exponentSign, exponentDigits) :=
      match afterFraction with
      | e :: '-' :: rest =>
          if e = 'e' || e = 'E' then (['-'], rest.takeWhile Char.isDigit) else ([], [])
      | e :: '+' :: rest =>
          if e = 'e' || e = 'E' then (['+'], rest.takeWhile Char.isDigit) else ([], [])
      | e :: rest => if e = 'e' || e = 'E' then ([], rest.takeWhile Char.isDigit) else ([], [])
      | [] => ([], [])
    let rest :=
      if exponentDigits.isEmpty then afterFraction
      else afterFraction.drop (1 + exponentSign.length + exponentDigits.length)
    if fraction.isEmpty && exponentDigits.isEmpty then
      if maxIntegerDigits < whole.length then .error .tooManyDigits
      else
        let size : Int := digitsValue whole
        .ok (.integer (if negative then -size else size), rest)
    else
      let power : Int :=
        if exponentSign = ['-'] then -(digitsValue exponentDigits : Int)
        else digitsValue exponentDigits
      .ok (.scientific negative (digitsValue (whole ++ fraction)) (power - fraction.length), rest)

/-- The values that are written as words. -/
def wordValues : List (Text × Json) :=
  [("null".toList, .null), ("true".toList, .bool true), ("false".toList, .bool false),
    ("NaN".toList, .number .indefinite), ("Infinity".toList, .number (.infinite false)),
    ("-Infinity".toList, .number (.infinite true))]

/-- A value that is written as a word or a number, and what follows it. -/
def readScalar (text : Text) : Except ReadIssue (Json × Text) :=
  match wordValues.findSome? fun (name, value) =>
      (dropLeading? name text).map fun rest => (value, rest) with
  | some found => .ok found
  | none => (readDigits text).map fun (value, rest) => (.number value, rest)

/-- A string, read from after its opening quote, and what follows it. -/
def readString (text : Text) : Except ReadIssue (Text × Text) :=
  match readString? (text.length + 1) [] text with
  | some found => .ok found
  | none => .error .malformed

mutual

/-- A value and what follows it. Each call takes at least one character or
ends, so twice the length of the text bounds the depth of the calls. -/
def readValue (steps : Nat) (text : Text) : Except ReadIssue (Json × Text) :=
  match steps with
  | 0 => .error .malformed
  | steps + 1 =>
      match skipBlanks text with
      | '"' :: rest => (readString rest).map fun (value, rest) => (.string value, rest)
      | '[' :: rest =>
          match skipBlanks rest with
          | ']' :: rest => .ok (.array [], rest)
          | _ => readItems steps [] rest
      | '\x7b' :: rest =>
          match skipBlanks rest with
          | '\x7d' :: rest => .ok (.object [], rest)
          | _ => readMembers steps [] rest
      | text => readScalar text

/-- The items of an array up to its closing bracket; those read so far are
held in reverse. -/
def readItems (steps : Nat) (collected : List Json) (text : Text) :
    Except ReadIssue (Json × Text) :=
  match steps with
  | 0 => .error .malformed
  | steps + 1 => do
      let (item, rest) ← readValue steps text
      match skipBlanks rest with
      | ',' :: rest => readItems steps (item :: collected) rest
      | ']' :: rest => return (.array (item :: collected).reverse, rest)
      | _ => .error .malformed

/-- The members of an object up to its closing brace. -/
def readMembers (steps : Nat) (collected : List (String × Json)) (text : Text) :
    Except ReadIssue (Json × Text) :=
  match steps with
  | 0 => .error .malformed
  | steps + 1 =>
      match skipBlanks text with
      | '"' :: rest => do
          let (name, rest) ← readString rest
          match skipBlanks rest with
          | ':' :: rest =>
              let (value, rest) ← readValue steps rest
              let members := setMember (String.ofList name) value collected
              match skipBlanks rest with
              | ',' :: rest => readMembers steps members rest
              | '\x7d' :: rest => return (.object members, rest)
              | _ => .error .malformed
          | _ => .error .malformed
      | _ => .error .malformed

end

/-- The value that a text writes, if it writes exactly one. -/
def read (text : Text) : Except ReadIssue Json := do
  let (value, rest) ← readValue (2 * text.length + 2) text
  if (skipBlanks rest).isEmpty then return value else .error .malformed

end DocPress.Json
