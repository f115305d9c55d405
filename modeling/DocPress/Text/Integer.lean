import DocPress.Text.Blank

/-!
# Integers written as text

An integer may be surrounded by blanks, carry one sign, use the decimal digits
of any script, and separate digits by single low lines. At most
`maxIntegerDigits` digits are read. Information separators are no blanks here.
-/

namespace DocPress

/-- The code points of the digit zero in every script (Unicode 14). -/
def decimalZeros : List Nat :=
  [
    0x30, 0x660, 0x6F0, 0x7C0, 0x966, 0x9E6, 0xA66, 0xAE6,
    0xB66, 0xBE6, 0xC66, 0xCE6, 0xD66, 0xDE6, 0xE50, 0xED0,
    0xF20, 0x1040, 0x1090, 0x17E0, 0x1810, 0x1946, 0x19D0, 0x1A80,
    0x1A90, 0x1B50, 0x1BB0, 0x1C40, 0x1C50, 0xA620, 0xA8D0, 0xA900,
    0xA9D0, 0xA9F0, 0xAA50, 0xABF0, 0xFF10, 0x104A0, 0x10D30, 0x11066,
    0x110F0, 0x11136, 0x111D0, 0x112F0, 0x11450, 0x114D0, 0x11650, 0x116C0,
    0x11730, 0x118E0, 0x11950, 0x11C50, 0x11D50, 0x11DA0, 0x16A60, 0x16AC0,
    0x16B50, 0x1D7CE, 0x1D7D8, 0x1D7E2, 0x1D7EC, 0x1D7F6, 0x1E140, 0x1E2F0,
    0x1E950, 0x1FBF0]

/-- The value of a decimal digit of any script. -/
def digitValue? (c : Char) : Option Nat :=
  decimalZeros.findSome? fun base =>
    if base ≤ c.toNat && c.toNat < base + 10 then some (c.toNat - base) else none

/-- Whether a character is a decimal digit of some script. -/
def isDigit (c : Char) : Bool :=
  (digitValue? c).isSome

/-- The longest run of digits that is read as a number. -/
def maxIntegerDigits : Nat := 4300

/-- The digit values of a run of digits in which single low lines may separate
digits; `none` when a digit is missing where one is due. -/
def digitRun? : Text → Option (List Nat)
  | [] => none
  | [c] => (digitValue? c).map fun value => [value]
  | c :: '_' :: rest => do
      let value ← digitValue? c
      return value :: (← digitRun? rest)
  | c :: rest => do
      let value ← digitValue? c
      return value :: (← digitRun? rest)

/-- The number that a list of digit values writes in base ten. -/
def ofDigitValues (values : List Nat) : Nat :=
  values.foldl (fun total value => 10 * total + value) 0

/-- The natural number written by a run of digits. -/
def readNatural? (digits : Text) : Option Nat := do
  let values ← digitRun? digits
  if values.length ≤ maxIntegerDigits then some (ofDigitValues values) else none

/-- Whether a character may surround an integer. -/
def isIntegerMargin (c : Char) : Bool :=
  isBlank c && !isInformationSeparator c

/-- The integer that a text writes, if it writes one. -/
def readInteger? (text : Text) : Option Int :=
  match trimWhere isIntegerMargin text with
  | '-' :: digits => (readNatural? digits).map fun n => -(n : Int)
  | '+' :: digits => (readNatural? digits).map Int.ofNat
  | digits => (readNatural? digits).map Int.ofNat

end DocPress
