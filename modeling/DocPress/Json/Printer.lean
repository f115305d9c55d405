import DocPress.Decimal.Shortest
import DocPress.Json.Basic
import DocPress.Text.Quoted

/-!
# Written forms of JSON values

Three forms of a value: indented JSON over several lines, JSON on one line, and
the plain form used inside messages, in which a string at the top stands
without quotes and nested ones are quoted.
-/

namespace DocPress

/-- The words for numbers that have no digits. -/
structure Numeral.Words where
  /-- The word for infinity. -/
  infinite : String
  /-- The word for what is not a number. -/
  indefinite : String

/-- The words in JSON. -/
def Numeral.jsonWords : Numeral.Words := ⟨"Infinity", "NaN"⟩

/-- The words in messages. -/
def Numeral.plainWords : Numeral.Words := ⟨"inf", "nan"⟩

/-- A number in decimal: an integer with all its digits, any other number with
the fewest digits that read back as the same double-precision number. -/
def Numeral.text (words : Numeral.Words) : Numeral → Text
  | .integer value => intText value
  | .scientific negative digits exponent =>
      signed negative <|
        match Decimal.nearest digits exponent with
        | .zero => "0.0".toList
        | .finite value => Decimal.Layout.render {} (Decimal.shortest value)
        | .infinite => words.infinite.toList
  | .infinite negative => signed negative words.infinite.toList
  | .indefinite => words.indefinite.toList
where
  /-- A size with its sign. -/
  signed (negative : Bool) (size : Text) : Text :=
    if negative then '-' :: size else size

namespace Json

/-- One character inside a JSON string. -/
def stringChar (c : Char) : Text :=
  if c = '"' then ['\\', '"']
  else if c = '\\' then ['\\', '\\']
  else if c = '\n' then ['\\', 'n']
  else if c = '\r' then ['\\', 'r']
  else if c = '\t' then ['\\', 't']
  else if c.toNat = 0x8 then ['\\', 'b']
  else if c.toNat = 0xC then ['\\', 'f']
  else if c.toNat < 0x20 then '\\' :: 'u' :: hexText 4 c.toNat
  else [c]

/-- A JSON string with its quotes. -/
def stringText (value : Text) : Text :=
  '"' :: value.flatMap stringChar ++ ['"']

/-- A line end and the indentation of a nesting depth, two blanks a level. -/
def newLine (depth : Nat) : Text :=
  '\n' :: List.replicate (2 * depth) ' '

mutual

/-- A value over several lines, each member and item on a line of its own. -/
def indented (depth : Nat) : Json → Text
  | .null => "null".toList
  | .bool true => "true".toList
  | .bool false => "false".toList
  | .number value => value.text Numeral.jsonWords
  | .string value => stringText value
  | .array [] => "[]".toList
  | .array (first :: rest) =>
      '[' :: newLine (depth + 1) ++ indented (depth + 1) first ++
        indentedItems (depth + 1) rest ++ newLine depth ++ [']']
  | .object [] => ['\x7b', '\x7d']
  | .object ((name, value) :: rest) =>
      '\x7b' :: newLine (depth + 1) ++ stringText name.toList ++ ": ".toList ++
        indented (depth + 1) value ++ indentedMembers (depth + 1) rest ++ newLine depth ++ ['\x7d']

/-- The items after the first, each led by a comma. -/
def indentedItems (depth : Nat) : List Json → Text
  | [] => []
  | item :: rest => ',' :: newLine depth ++ indented depth item ++ indentedItems depth rest

/-- The members after the first, each led by a comma. -/
def indentedMembers (depth : Nat) : List (String × Json) → Text
  | [] => []
  | (name, value) :: rest =>
      ',' :: newLine depth ++ stringText name.toList ++ ": ".toList ++ indented depth value ++
        indentedMembers depth rest

end

mutual

/-- A value on one line, without blanks between its parts. -/
def compact : Json → Text
  | .null => "null".toList
  | .bool true => "true".toList
  | .bool false => "false".toList
  | .number value => value.text Numeral.jsonWords
  | .string value => stringText value
  | .array [] => "[]".toList
  | .array (first :: rest) => '[' :: compact first ++ compactItems rest ++ [']']
  | .object [] => ['\x7b', '\x7d']
  | .object ((name, value) :: rest) =>
      '\x7b' :: stringText name.toList ++ ':' :: compact value ++ compactMembers rest ++ ['\x7d']

/-- The items after the first, each led by a comma. -/
def compactItems : List Json → Text
  | [] => []
  | item :: rest => ',' :: compact item ++ compactItems rest

/-- The members after the first, each led by a comma. -/
def compactMembers : List (String × Json) → Text
  | [] => []
  | (name, value) :: rest =>
      ',' :: stringText name.toList ++ ':' :: compact value ++ compactMembers rest

end

mutual

/-- The plain form of a value inside another one: its strings are quoted. -/
def nestedForm : Json → Text
  | .null => "None".toList
  | .bool true => "True".toList
  | .bool false => "False".toList
  | .number value => value.text Numeral.plainWords
  | .string value => quoted value
  | .array [] => "[]".toList
  | .array (first :: rest) => '[' :: nestedForm first ++ nestedItems rest ++ [']']
  | .object [] => ['\x7b', '\x7d']
  | .object ((name, value) :: rest) =>
      '\x7b' :: quoted name.toList ++ ": ".toList ++ nestedForm value ++ nestedMembers rest ++
        ['\x7d']

/-- The items after the first, each led by a comma and a blank. -/
def nestedItems : List Json → Text
  | [] => []
  | item :: rest => ", ".toList ++ nestedForm item ++ nestedItems rest

/-- The members after the first, each led by a comma and a blank. -/
def nestedMembers : List (String × Json) → Text
  | [] => []
  | (name, value) :: rest =>
      ", ".toList ++ quoted name.toList ++ ": ".toList ++ nestedForm value ++ nestedMembers rest

end

/-- The plain form of a value in a message: a string stands as it is. -/
def plainForm : Json → Text
  | .string value => value
  | value => nestedForm value

end Json

end DocPress
