import DocPress.Json.Printer

/-!
# Documents as they are read

A snapshot is what a document looked like when it was read: its elements in
order, each with the positions that it covers. A document need not state every
position, so a position may be missing.
-/

namespace DocPress

/-- A position as a document states it. -/
inductive Stated
  /-- The document says nothing. -/
  | absent
  /-- The document says that there is none. -/
  | null
  /-- The position. -/
  | index (value : Int)
  deriving DecidableEq, Repr, Inhabited

namespace Stated

/-- The stated position, or the given one where the document says nothing. -/
def orElse (stated : Stated) (fallback : Option Int) : Option Int :=
  match stated with
  | .absent => fallback
  | .null => none
  | .index value => some value

/-- The position that a member of an object states. -/
def ofMember (name : String) (value : Json) : Stated :=
  match value.member? name with
  | none => .absent
  | some stated =>
      match stated.int? with
      | some position => .index position
      | none => .null

/-- The members of an object that state a position. -/
def members (name : String) : Stated → List (String × Json)
  | .absent => []
  | .null => [(name, .null)]
  | .index value => [(name, .int value)]

end Stated

namespace Snapshot

/-- A run of characters with one look. -/
structure Run where
  /-- Where the run begins. -/
  start : Stated := .absent
  /-- The position after the run. -/
  stop : Stated := .absent
  /-- Its characters. -/
  content : Text := []
  deriving DecidableEq, Repr, Inhabited

/-- A piece of a document that may be a paragraph. -/
structure Passage where
  /-- Where the passage begins. -/
  start : Stated := .absent
  /-- The position after the passage. -/
  stop : Stated := .absent
  /-- The runs of the paragraph; `none` where there is no paragraph. -/
  runs : Option (List Run) := none
  deriving DecidableEq, Repr, Inhabited

/-- A cell of a table. -/
structure Cell where
  /-- Where the cell begins. -/
  start : Stated := .absent
  /-- The position after the cell. -/
  stop : Stated := .absent
  /-- The passages in the cell. -/
  content : List Passage := []
  deriving DecidableEq, Repr, Inhabited

/-- A row of a table. -/
structure Row where
  /-- Where the row begins. -/
  start : Stated := .absent
  /-- The position after the row. -/
  stop : Stated := .absent
  /-- The cells from left to right. -/
  cells : List Cell := []
  deriving DecidableEq, Repr, Inhabited

/-- A table. -/
structure Table where
  /-- The number of columns, if the document states one. -/
  columns : Option Int := none
  /-- The rows from top to bottom. -/
  rows : List Row := []
  deriving DecidableEq, Repr, Inhabited

/-- A top-level element: a passage, a table, or both. -/
structure Element extends Passage where
  /-- The table, if the element holds one. -/
  table : Option Table := none
  deriving DecidableEq, Repr, Inhabited

end Snapshot

/-- A document as it was read. -/
structure Snapshot where
  /-- The identifier of the document. -/
  id : Option String := none
  /-- The title of the document. -/
  title : Option String := none
  /-- The top-level elements in order. -/
  body : List Snapshot.Element := []
  deriving DecidableEq, Repr, Inhabited

namespace Snapshot

/-- The characters of runs, one run after the other. -/
def runsText (runs : List Run) : Text :=
  runs.flatMap Run.content

/-! ## Reading a reply of the service -/

/-- The items of a member of an object; there are none where it is missing. -/
def itemsOf (name : String) (value : Json) : List Json :=
  ((value.member? name).map Json.items).getD []

/-- A run; an element without text is an empty run. -/
def Run.ofJson (value : Json) : Run :=
  let content := (value.member? "textRun").bind (Json.member? "content")
  { start := .ofMember "startIndex" value
    stop := .ofMember "endIndex" value
    content := (content.bind Json.text?).getD [] }

/-- A passage. -/
def Passage.ofJson (value : Json) : Passage :=
  { start := .ofMember "startIndex" value
    stop := .ofMember "endIndex" value
    runs := (value.member? "paragraph").map fun paragraph =>
      (itemsOf "elements" paragraph).map Run.ofJson }

/-- A cell. -/
def Cell.ofJson (value : Json) : Cell :=
  { start := .ofMember "startIndex" value
    stop := .ofMember "endIndex" value
    content := (itemsOf "content" value).map Passage.ofJson }

/-- A row. -/
def Row.ofJson (value : Json) : Row :=
  { start := .ofMember "startIndex" value
    stop := .ofMember "endIndex" value
    cells := (itemsOf "tableCells" value).map Cell.ofJson }

/-- A table. -/
def Table.ofJson (value : Json) : Table :=
  { columns := (value.member? "columns").bind Json.int?
    rows := (itemsOf "tableRows" value).map Row.ofJson }

/-- A top-level element. -/
def Element.ofJson (value : Json) : Element :=
  { toPassage := .ofJson value
    table := (value.member? "table").map Table.ofJson }

/-- The title of a document whose reply states none. -/
def defaultTitle : String := "Untitled Document"

/-- A title; one that is null is none. -/
def titleOfJson : Json → Option String
  | .null => none
  | title => some (String.ofList title.plainForm)

/-- A document from a reply of the service. -/
def ofJson (reply : Json) : Snapshot :=
  { id := ((reply.member? "documentId").bind Json.text?).map String.ofList
    title := ((reply.member? "title").map titleOfJson).getD (some defaultTitle)
    body := ((reply.member? "body").map (itemsOf "content")).getD [] |>.map Element.ofJson }

/-! ## Writing a reply of the service -/

/-- The members that state the positions covered. -/
def extent (start stop : Stated) : List (String × Json) :=
  start.members "startIndex" ++ stop.members "endIndex"

/-- A run as JSON. -/
def Run.toJson (run : Run) : Json :=
  .object (extent run.start run.stop ++ [("textRun", .object [("content", .string run.content)])])

/-- The members of a passage. -/
def Passage.members (passage : Passage) : List (String × Json) :=
  extent passage.start passage.stop ++
    match passage.runs with
    | some runs => [("paragraph", .object [("elements", .array (runs.map Run.toJson))])]
    | none => []

/-- A cell as JSON. -/
def Cell.toJson (cell : Cell) : Json :=
  .object (extent cell.start cell.stop ++
    [("content", .array (cell.content.map fun passage => .object passage.members))])

/-- A row as JSON. -/
def Row.toJson (row : Row) : Json :=
  .object (extent row.start row.stop ++ [("tableCells", .array (row.cells.map Cell.toJson))])

/-- A table as JSON. -/
def Table.toJson (table : Table) : Json :=
  .object ([("rows", .int table.rows.length)] ++
    (table.columns.map fun columns => ("columns", .int columns)).toList ++
    [("tableRows", .array (table.rows.map Row.toJson))])

/-- A top-level element as JSON. What is neither a paragraph nor a table is a
section break. -/
def Element.toJson (element : Element) : Json :=
  let table := (element.table.map fun table => ("table", table.toJson)).toList
  let sectionBreak :=
    if element.runs.isNone && element.table.isNone then [("sectionBreak", .object [])] else []
  .object (element.members ++ table ++ sectionBreak)

/-- An identifier or a title as JSON. -/
def nameJson (name : Option String) : Json :=
  (name.map Json.str).getD .null

/-- A document as the service replies with it. -/
def toJson (snapshot : Snapshot) : Json :=
  .object [("documentId", nameJson snapshot.id), ("title", nameJson snapshot.title),
    ("body", .object [("content", .array (snapshot.body.map Element.toJson))])]

end Snapshot

end DocPress
