import DocPress.Decimal.Nearest
import DocPress.Text.Basic

/-!
# JSON values

Objects keep their members in order of first appearance. An integer is told
apart from a number with a fraction or an exponent: `1` is an integer, `1.0` is
not. A zero of the second kind has a sign, and besides JSON's own numbers there
are the infinite ones and one that is no number.
-/

namespace DocPress

/-- A number as it is written. -/
inductive Numeral
  /-- Written without a fraction and without an exponent. -/
  | integer (value : Int)
  /-- The value `digits * 10 ^ exponent`, or its negative. -/
  | scientific (negative : Bool) (digits : Nat) (exponent : Int)
  /-- Infinity, or its negative. -/
  | infinite (negative : Bool)
  /-- Not a number. -/
  | indefinite
  deriving DecidableEq, Repr, Inhabited

namespace Numeral

/-- The positive number `digits * 10 ^ exponent`. -/
def decimal (digits : Nat) (exponent : Int) : Numeral :=
  .scientific false digits exponent

/-- Whether a number is zero in double precision. -/
def isZero : Numeral → Bool
  | .integer value => value == 0
  | .scientific _ digits exponent => Decimal.nearest digits exponent == .zero
  | .infinite _ | .indefinite => false

end Numeral

/-- A JSON value. -/
inductive Json
  | null
  | bool (value : Bool)
  | number (value : Numeral)
  | string (value : Text)
  | array (items : List Json)
  | object (members : List (String × Json))
  deriving Inhabited

namespace Json

/-- An integer as a JSON value. -/
def int (value : Int) : Json :=
  .number (.integer value)

/-- A string given by a string literal. -/
def str (value : String) : Json :=
  .string value.toList

/-- The value of a member of an object; `none` for other values. -/
def member? (name : String) : Json → Option Json
  | .object members => members.lookup name
  | _ => none

/-- The items of an array; other values have none. -/
def items : Json → List Json
  | .array items => items
  | _ => []

/-- The characters of a string. -/
def text? : Json → Option Text
  | .string value => some value
  | _ => none

/-- The value of an integer. -/
def int? : Json → Option Int
  | .number (.integer value) => some value
  | _ => none

/-- The value of a truth value. -/
def bool? : Json → Option Bool
  | .bool value => some value
  | _ => none

/-- The members of an object with one member set: a known name keeps its
place. -/
def setMember (name : String) (value : Json) : List (String × Json) → List (String × Json)
  | [] => [(name, value)]
  | member :: rest =>
      if member.1 = name then (name, value) :: rest else member :: setMember name value rest

/-- Whether a value says something: null, false, zero and whatever is empty
do not. -/
def isSubstantial : Json → Bool
  | .null => false
  | .bool value => value
  | .number value => !value.isZero
  | .string value => !value.isEmpty
  | .array items => !items.isEmpty
  | .object members => !members.isEmpty

end Json

end DocPress
