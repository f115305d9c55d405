import DocPress.Text.Basic

/-!
# Host names outside ASCII

A host name consists of parts between dots. A part with characters outside
ASCII has a form in ASCII: after a lead come the part's ASCII characters, a
hyphen, and digits that place the others, from the least code point to the
greatest. The digits are numbers in base 36 with moving thresholds: a digit below
its threshold ends a number, and a bias, adapted after every number, moves the
thresholds.
-/

namespace DocPress.Markdown.HostName

/-! ## Parts -/

/-- The dots that separate the parts of a host name. -/
def isDot (c : Char) : Bool :=
  c == '.' || c == '。' || c == '．' || c == '｡'

/-- The parts of a host name. -/
def parts (host : Text) : List Text :=
  splitAt '.' (host.map fun c => if isDot c then '.' else c)

/-- Parts joined by dots. -/
def joinDots (parts : List Text) : Text :=
  joinWith ['.'] parts

/-- What leads an encoded part. -/
def encodedLead : Text := "xn--".toList

/-! ## Numbers in base 36 -/

/-- The threshold of the digit at a place; the places are 36 apart. -/
def threshold (bias place : Nat) : Nat :=
  if place ≤ bias then 1 else if bias + 26 ≤ place then 26 else place - bias

theorem one_le_threshold (bias place : Nat) : 1 ≤ threshold bias place := by
  unfold threshold
  split
  · exact Nat.le_refl 1
  · split <;> omega

/-- A digit in base 36, letters first. -/
def digitChar (value : Nat) : Char :=
  if value < 26 then Char.ofNat (0x61 + value) else Char.ofNat (0x30 + (value - 26))

/-- The value of a digit in base 36. -/
def digitValue? (c : Char) : Option Nat :=
  if c.isLower then some (c.toNat - 0x61)
  else if c.isDigit then some (c.toNat - 0x30 + 26)
  else none

/-- The digits of a number from a place on. -/
def numberDigits (bias place number : Nat) : Text :=
  let least := threshold bias place
  if number < least then [digitChar number]
  else
    digitChar (least + (number - least) % (36 - least)) ::
      numberDigits bias (place + 36) ((number - least) / (36 - least))
termination_by number
decreasing_by
  have := one_le_threshold bias place
  exact Nat.lt_of_le_of_lt (Nat.div_le_self _ _) (by omega)

/-- The number at the start of a text, and what follows it. `weight` is what the
digit at the place counts, `total` what the digits before came to. -/
def readNumber? (bias place weight total : Nat) : Text → Option (Nat × Text)
  | [] => none
  | c :: rest => do
      let value ← digitValue? c
      let least := threshold bias place
      let total := total + value * weight
      if value < least then return (total, rest)
      else readNumber? bias (place + 36) (weight * (36 - least)) total rest

/-- The part of a bias that a scaled number gives. -/
def scaledBias (number bias : Nat) : Nat :=
  if 455 < number then scaledBias (number / 35) (bias + 36)
  else bias + 36 * number / (number + 38)
termination_by number
decreasing_by exact Nat.div_lt_self (by omega) (by omega)

/-- The bias after a number that placed a character; `count` characters are
placed now. -/
def adaptedBias (number count : Nat) (first : Bool) : Nat :=
  let number := if first then number / 700 else number / 2
  scaledBias (number + number / count) 0

/-- The bias before the first number. -/
def initialBias : Nat := 72

/-! ## Encoding -/

/-- The state of encoding a part. -/
structure Encoding where
  /-- The number of places passed since the last character placed. -/
  passed : Nat := 0
  /-- The current bias. -/
  bias : Nat := initialBias
  /-- How many characters have been placed. -/
  placed : Nat
  /-- The digits written so far. -/
  digits : Text := []

/-- Place all characters of one code point, after all lesser ones; the code
points before `next` have been dealt with. -/
def Encoding.placeAll (part : Text) (basicCount : Nat) (state : Encoding × Nat) (code : Nat) :
    Encoding × Nat :=
  let (encoding, next) := state
  let start :=
    { encoding with passed := encoding.passed + (code - next) * (encoding.placed + 1) }
  let placed := part.foldl (fun (encoding : Encoding) c =>
    if c.toNat < code then { encoding with passed := encoding.passed + 1 }
    else if c.toNat = code then
      { passed := 0
        bias := adaptedBias encoding.passed (encoding.placed + 1) (encoding.placed = basicCount)
        placed := encoding.placed + 1
        digits := encoding.digits ++ numberDigits encoding.bias 36 encoding.passed }
    else encoding) start
  ({ placed with passed := placed.passed + 1 }, code + 1)

/-- A part in ASCII, without the lead: its ASCII characters, and then the places
of the others. -/
def encodePart (part : Text) : Text :=
  let basic := part.filter (·.toNat < 0x80)
  let others := (part.filter (0x80 ≤ ·.toNat)).map Char.toNat
  let codes := (others.mergeSort (· ≤ ·)).eraseDups
  let (encoding, _) :=
    codes.foldl (Encoding.placeAll part basic.length) ({ placed := basic.length }, 0x80)
  (if basic.isEmpty then [] else basic ++ ['-']) ++ encoding.digits

/-- A host name in ASCII. -/
def encode (host : Text) : Text :=
  joinDots <| (parts host).map fun part =>
    if part.all (·.toNat < 0x7F) then part else encodedLead ++ encodePart part

/-! ## Decoding -/

/-- Put characters into a part where the digits say: `code` is the code point of
the last one, `place` the place after it. Every number has a digit, so the number
of digits bounds the steps. -/
def insertPlaced? (steps code place bias : Nat) (first : Bool) (part digits : Text) :
    Option Text :=
  match steps, digits with
  | _, [] => some part
  | 0, _ => none
  | steps + 1, digits => do
      let (number, rest) ← readNumber? bias 36 1 0 digits
      let count := part.length + 1
      let code := code + (place + number) / count
      let place := (place + number) % count
      guard code.isValidChar
      insertPlaced? steps code (place + 1) (adaptedBias number count first) false
        (part.take place ++ Char.ofNat code :: part.drop place) rest

/-- A letter of a part in lower case. The Kelvin sign is a letter k, too. -/
def lowerLetter (c : Char) : Char :=
  if c = '\u212A' then 'k' else c.toLower

/-- A part from its form in ASCII without the lead, read without regard to
case. -/
def decodePart? (encoded : Text) : Option Text := do
  let encoded := encoded.map lowerLetter
  guard (encoded.all (·.toNat < 0x80))
  let digits := (encoded.reverse.takeWhile (· != '-')).reverse
  let basic := (encoded.take (encoded.length - digits.length)).dropLast
  insertPlaced? digits.length 0x80 0 initialBias true basic digits

/-- A host name with its encoded parts decoded. If one of them cannot be, all
stay as they are. -/
def decode (host : Text) : Text :=
  let decodeLed? (part : Text) : Option Text :=
    match dropLeading? encodedLead part with
    | some encoded => decodePart? encoded
    | none => some part
  (((parts host).mapM decodeLed?).map joinDots).getD host

end DocPress.Markdown.HostName
