import DocPress.Json.Basic

/-!
# Edit requests

A request is one edit of a document: its text, its tables, or the styles of a
range. Positions count UTF-16 code units, and a range ends before its second
position. `Request.toJson` gives the form in which the document service takes a
request.
-/

namespace DocPress

/-- Style attributes with their values, in the order in which they were
given. -/
abbrev Attributes := List (String × Json)

/-- The names of attributes, separated by commas. -/
def Attributes.names (attributes : Attributes) : String :=
  ",".intercalate (attributes.map Prod.fst)

/-- Attributes given as pairs; a name given twice keeps its first place and its
last value. -/
def Attributes.ofPairs (pairs : List (String × Json)) : Attributes :=
  pairs.foldl (fun attributes pair => Json.setMember pair.1 pair.2 attributes) []

/-- One edit of a document. -/
inductive Request
  /-- Insert text before a position. -/
  | insertText (index : Int) (text : Text)
  /-- Insert an empty table at a position. -/
  | insertTable (index rows columns : Int)
  /-- Delete what lies in a range. -/
  | deleteRange (start stop : Int)
  /-- Style the characters of a range; `fields` names the attributes to set. -/
  | textStyle (start stop : Int) (style : Attributes) (fields : String)
  /-- Style the paragraphs of a range; `fields` names the attributes to set. -/
  | paragraphStyle (start stop : Int) (style : Attributes) (fields : String)
  /-- Make the paragraphs of a range items of a list. -/
  | bullets (start stop : Int) (preset : Json)
  /-- A request that is none of these: its first member, and the others. -/
  | other (name : String) (body : Json) (more : Attributes)
  deriving Inhabited

namespace Request

/-- The name under which the service knows a kind of request. -/
def name : Request → String
  | .insertText .. => "insertText"
  | .insertTable .. => "insertTable"
  | .deleteRange .. => "deleteContentRange"
  | .textStyle .. => "updateTextStyle"
  | .paragraphStyle .. => "updateParagraphStyle"
  | .bullets .. => "createParagraphBullets"
  | .other name _ _ => name

/-- A range of positions. -/
def rangeJson (start stop : Int) : Json :=
  .object [("startIndex", .int start), ("endIndex", .int stop)]

/-- A position. -/
def locationJson (index : Int) : Json :=
  .object [("index", .int index)]

/-- The body of a request. -/
def body : Request → Json
  | .insertText index text => .object [("location", locationJson index), ("text", .string text)]
  | .insertTable index rows columns =>
      .object [("location", locationJson index), ("rows", .int rows), ("columns", .int columns)]
  | .deleteRange start stop => .object [("range", rangeJson start stop)]
  | .textStyle start stop style fields =>
      .object [("range", rangeJson start stop), ("textStyle", .object style),
        ("fields", .str fields)]
  | .paragraphStyle start stop style fields =>
      .object [("range", rangeJson start stop), ("paragraphStyle", .object style),
        ("fields", .str fields)]
  | .bullets start stop preset =>
      .object [("range", rangeJson start stop), ("bulletPreset", preset)]
  | .other _ body _ => body

/-- What else a request says. -/
def more : Request → Attributes
  | .other _ _ more => more
  | _ => []

/-- A request as the service takes it. -/
def toJson (request : Request) : Json :=
  .object ((request.name, request.body) :: request.more)

/-- The field mask to send: the one asked for, or all attributes if that one is
missing or empty. -/
def fieldMask (style : Attributes) (fields : Option String) : String :=
  match fields with
  | some fields => if fields.isEmpty then style.names else fields
  | none => style.names

/-- Style characters; the field mask covers all attributes unless one is
asked for. -/
def styleText (start stop : Int) (style : Attributes) (fields : Option String := none) : Request :=
  .textStyle start stop style (fieldMask style fields)

/-- Style paragraphs; the field mask covers all attributes unless one is asked
for. -/
def styleParagraphs (start stop : Int) (style : Attributes) (fields : Option String := none) :
    Request :=
  .paragraphStyle start stop style (fieldMask style fields)

/-! ## Reading requests -/

/-- The members of an object with exactly the given names. -/
def membersOf? (names : List String) : Json → Option Attributes
  | .object members =>
      if members.length = names.length && names.all fun name => (members.lookup name).isSome then
        some members
      else none
  | _ => none

/-- The two positions of a range that holds nothing else. -/
def range? (range : Json) : Option (Int × Int) := do
  let members ← membersOf? ["startIndex", "endIndex"] range
  return (← (← members.lookup "startIndex").int?, ← (← members.lookup "endIndex").int?)

/-- The position of a location that holds nothing else. -/
def location? (location : Json) : Option Int := do
  (← (← membersOf? ["index"] location).lookup "index").int?

/-- A range, attributes and a field mask. -/
def styled? (styleName : String) (body : Json) : Option (Int × Int × Attributes × String) := do
  let members ← membersOf? ["range", styleName, "fields"] body
  let (start, stop) ← range? (← members.lookup "range")
  match ← members.lookup styleName, ← members.lookup "fields" with
  | .object style, .string fields => some (start, stop, style, String.ofList fields)
  | _, _ => none

/-- A request of a known kind, read from its body. A body that says more or less
than the kind asks for is none. -/
def ofBody? (name : String) (body : Json) : Option Request :=
  match name with
  | "insertText" => do
      let members ← membersOf? ["location", "text"] body
      return .insertText (← location? (← members.lookup "location"))
        (← (← members.lookup "text").text?)
  | "insertTable" => do
      let members ← membersOf? ["location", "rows", "columns"] body
      return .insertTable (← location? (← members.lookup "location"))
        (← (← members.lookup "rows").int?) (← (← members.lookup "columns").int?)
  | "deleteContentRange" => do
      let members ← membersOf? ["range"] body
      let (start, stop) ← range? (← members.lookup "range")
      return .deleteRange start stop
  | "updateTextStyle" => do
      let (start, stop, style, fields) ← styled? "textStyle" body
      return .textStyle start stop style fields
  | "updateParagraphStyle" => do
      let (start, stop, style, fields) ← styled? "paragraphStyle" body
      return .paragraphStyle start stop style fields
  | "createParagraphBullets" => do
      let members ← membersOf? ["range", "bulletPreset"] body
      let (start, stop) ← range? (← members.lookup "range")
      return .bullets start stop (← members.lookup "bulletPreset")
  | _ => none

/-- A request as the service takes it, read back. What is no request of a known
kind is kept as it is. -/
def ofJson (request : Json) : Request :=
  match request with
  | .object [(name, body)] => (ofBody? name body).getD (.other name body [])
  | .object ((name, body) :: more) => .other name body more
  | _ => .other "" request []

end Request

/-- A colour by its red, green and blue parts between zero and one. -/
def rgbColor (red green blue : Numeral) : Json :=
  .object [("color", .object [("rgbColor",
    .object [("red", .number red), ("green", .number green), ("blue", .number blue)])])]

/-- A length in points. -/
def points (magnitude : Numeral) : Json :=
  .object [("magnitude", .number magnitude), ("unit", .str "PT")]

end DocPress
