import DocPress.Failure
import DocPress.MemoryDocument.Basic
import DocPress.Style

/-!
# Edits of documents in memory

A request asks for one edit. An edit that a document cannot take is refused,
and the document stays as it was. After text was inserted into a paragraph, or
a range deleted, the paragraphs between tables are split anew: each line is a
paragraph of its own.
-/

namespace DocPress

/-- What a request asks of a document. -/
inductive Edit
  /-- Insert text before a position. -/
  | insertText (index : Int) (text : Text)
  /-- Insert an empty table at a position. -/
  | insertTable (index rows columns : Int)
  /-- Delete what lies in a range. -/
  | delete (start stop : Int)
  /-- Note the style of a range. -/
  | style (request : String) (start stop : Int) (style : Json)
  /-- Something that no document understands. -/
  | unsupported (request : String)

/-- The style that the body of a request sets. -/
def styleOfBody (body : Json) : Json :=
  let stated (name : String) : Option Json := (body.member? name).filter Json.isSubstantial
  (stated "textStyle" <|> stated "paragraphStyle").getD
    (.object [(Style.presetName, (body.member? Style.presetName).getD .null)])

/-- The position that a body locates. -/
def indexOfBody? (body : Json) : Option Int := do
  (← (← body.member? "location").member? "index").int?

/-- The range that a body covers. -/
def rangeOfBody? (body : Json) : Option (Int × Int) := do
  let range ← body.member? "range"
  return (← (← range.member? "startIndex").int?, ← (← range.member? "endIndex").int?)

/-- What a body under a name asks of a document, whatever else it says. -/
def Edit.ofBody? (name : String) (body : Json) : Option Edit :=
  match name with
  | "insertText" => do
      return .insertText (← indexOfBody? body) (← (← body.member? "text").text?)
  | "insertTable" => do
      return .insertTable (← indexOfBody? body) (← (← body.member? "rows").int?)
        (← (← body.member? "columns").int?)
  | "deleteContentRange" => do
      let (start, stop) ← rangeOfBody? body
      return .delete start stop
  | "updateTextStyle" | "updateParagraphStyle" | "createParagraphBullets" => do
      let (start, stop) ← rangeOfBody? body
      return .style name start stop (styleOfBody body)
  | _ => none

/-- What a request asks of a document. -/
def Request.edit (request : Request) : Edit :=
  match request with
  | .insertText index text => .insertText index text
  | .insertTable index rows columns => .insertTable index rows columns
  | .deleteRange start stop => .delete start stop
  | .textStyle start stop _ _ | .paragraphStyle start stop _ _ | .bullets start stop _ =>
      .style request.name start stop (styleOfBody request.body)
  | .other name body _ => (Edit.ofBody? name body).getD (.unsupported name)

namespace MemoryDocument

/-! ## Paragraphs -/

/-- The paragraphs of a text, one for each line. The text must end with a line
end unless it is empty. -/
def paragraphsOf (text : Text) : Except EditIssue (List Element) :=
  if text.isEmpty then .ok []
  else
    let lines := textLines text
    if lines.getLastD [] = [] then
      .ok (lines.dropLast.map fun line => .paragraph (line ++ ['\n']))
    else .error .lostLineEnd

/-- Split the text between tables into paragraphs; `pending` is text that stands
right before the elements. -/
def splitAnew (pending : Text) : List Element → Except EditIssue (List Element)
  | [] => paragraphsOf pending
  | .paragraph text :: rest => splitAnew (pending ++ text) rest
  | .table cells :: rest => do
      let paragraphs ← paragraphsOf pending
      let rest ← splitAnew [] rest
      return paragraphs ++ .table cells :: rest

/-! ## Insertions -/

/-- A text with another one inserted after some of its characters. -/
def splice (offset : Nat) (inserted text : Text) : Text :=
  text.take offset ++ inserted ++ text.drop offset

/-- Insert into the cell of a row that holds the index. The first cell begins at
the position. -/
def insertInCells? (index : Int) (inserted : Text) (position : Int) :
    List Text → Option (List Text)
  | [] => none
  | cell :: rest =>
      if position + 1 ≤ index ∧ index < position + cellSize cell then
        some (splice (index - (position + 1)).toNat inserted cell :: rest)
      else (insertInCells? index inserted (position + cellSize cell) rest).map (cell :: ·)

/-- Insert into the row that holds the index. The first row begins at the
position. -/
def insertInRows? (index : Int) (inserted : Text) (position : Int) :
    List (List Text) → Option (List (List Text))
  | [] => none
  | row :: rest =>
      match insertInCells? index inserted (position + 1) row with
      | some row => some (row :: rest)
      | none => (insertInRows? index inserted (position + rowSize row) rest).map (row :: ·)

/-- Insert into the table that holds the index. The first element begins at the
position. -/
def insertInTable? (index : Int) (inserted : Text) (position : Int) :
    List Element → Option (List Element)
  | [] => none
  | .paragraph text :: rest =>
      (insertInTable? index inserted (position + text.length) rest).map (.paragraph text :: ·)
  | .table cells :: rest =>
      match insertInRows? index inserted (position + 1) cells with
      | some cells => some (.table cells :: rest)
      | none =>
          (insertInTable? index inserted (position + (rowsSize cells + 2)) rest).map
            (.table cells :: ·)

/-- Replace the paragraph that holds the index by what `replacement` gives for
its text and the offset of the index in it. The first element begins at the
position. -/
def replaceParagraph? (index : Int) (replacement : Text → Nat → List Element) (position : Int) :
    List Element → Option (List Element)
  | [] => none
  | .paragraph text :: rest =>
      if position ≤ index ∧ index < position + text.length then
        some (replacement text (index - position).toNat ++ rest)
      else
        (replaceParagraph? index replacement (position + text.length) rest).map
          (.paragraph text :: ·)
  | .table cells :: rest =>
      (replaceParagraph? index replacement (position + (rowsSize cells + 2)) rest).map
        (.table cells :: ·)

/-- Insert text at an index. -/
def insertText (index : Int) (inserted : Text) (elements : List Element) :
    Except EditIssue (List Element) :=
  if inserted.isEmpty then .error .emptyInsertion
  else
    let joined (text : Text) (offset : Nat) : List Element :=
      [.paragraph (splice offset inserted text)]
    match replaceParagraph? index joined bodyStart elements with
    | some elements => splitAnew [] elements
    | none =>
        match insertInTable? index inserted bodyStart elements with
        | some elements => .ok elements
        | none => .error (.outsideParagraph index)

/-- The cells of an empty table. -/
def emptyCells (rows columns : Int) : List (List Text) :=
  List.replicate rows.toNat (List.replicate columns.toNat [])

/-- Insert an empty table at an index. It breaks the paragraph there in two. -/
def insertTable (index rows columns : Int) (elements : List Element) :
    Except EditIssue (List Element) :=
  let broken (text : Text) (offset : Nat) : List Element :=
    [.paragraph (text.take offset ++ ['\n']), .table (emptyCells rows columns),
      .paragraph (text.drop offset)]
  match replaceParagraph? index broken bodyStart elements with
  | some elements => .ok elements
  | none => .error (.tableOutsideParagraph index)

/-! ## Ranges -/

/-- The characters whose positions satisfy a test. The first one stands at the
position. -/
def charsAt (test : Int → Bool) (position : Int) : Text → Text
  | [] => []
  | c :: rest =>
      let others := charsAt test (position + 1) rest
      if test position then c :: others else others

/-- Whether a position lies in a range. -/
def isWithin (start stop position : Int) : Bool :=
  start ≤ position && position < stop

/-- Delete a range from elements of which the first begins at the position.
Tables go as a whole or not at all. -/
def deleteFrom (start stop position : Int) : List Element → Except EditIssue (List Element)
  | [] => .ok []
  | .paragraph text :: rest => do
      let remaining := charsAt (fun position => !isWithin start stop position) position text
      let rest ← deleteFrom start stop (position + text.length) rest
      return if remaining.isEmpty then rest else .paragraph remaining :: rest
  | .table cells :: rest =>
      let after := position + (rowsSize cells + 2)
      if start ≤ position ∧ after ≤ stop then deleteFrom start stop after rest
      else if after ≤ start ∨ stop ≤ position then do
        return .table cells :: (← deleteFrom start stop after rest)
      else .error .partialTable

/-- Delete a range. It may not be empty, and the end of the document stays. -/
def deleteRange (start stop : Int) (elements : List Element) : Except EditIssue (List Element) :=
  if 1 ≤ start ∧ start < stop ∧ stop < stopOf elements then do
    splitAnew [] (← deleteFrom start stop bodyStart elements)
  else .error (.deleteRange start stop)

/-- The characters of the cells of a row that lie in a range. -/
def cellsWithin (start stop position : Int) : List Text → Text
  | [] => []
  | cell :: rest =>
      charsAt (isWithin start stop) (position + 1) (cell ++ ['\n']) ++
        cellsWithin start stop (position + cellSize cell) rest

/-- The characters of the rows of a table that lie in a range. -/
def rowsWithin (start stop position : Int) : List (List Text) → Text
  | [] => []
  | row :: rest =>
      cellsWithin start stop (position + 1) row ++
        rowsWithin start stop (position + rowSize row) rest

/-- The characters of elements that lie in a range. -/
def textWithin (start stop position : Int) : List Element → Text
  | [] => []
  | .paragraph text :: rest =>
      charsAt (isWithin start stop) position text ++
        textWithin start stop (position + text.length) rest
  | .table cells :: rest =>
      rowsWithin start stop (position + 1) cells ++
        textWithin start stop (position + (rowsSize cells + 2)) rest

/-! ## Batches -/

/-- Change the elements of a document. -/
def changeElements (document : MemoryDocument)
    (change : List Element → Except EditIssue (List Element)) :
    Except EditIssue MemoryDocument := do
  return { document with elements := ← change document.elements }

/-- Note the style of a range with the text that it covers now. -/
def noteStyle (document : MemoryDocument) (request : String) (start stop : Int) (style : Json) :
    Except EditIssue MemoryDocument :=
  if 1 ≤ start ∧ start < stop ∧ stop ≤ document.stop then
    let text := textWithin start stop bodyStart document.elements
    .ok { document with styles := document.styles ++ [{ request, start, stop, text, style }] }
  else .error (.styleRange start stop request)

/-- Make one edit. -/
def edit (document : MemoryDocument) : Edit → Except EditIssue MemoryDocument
  | .insertText index text => document.changeElements (insertText index text)
  | .insertTable index rows columns => document.changeElements (insertTable index rows columns)
  | .delete start stop => document.changeElements (deleteRange start stop)
  | .style request start stop style => document.noteStyle request start stop style
  | .unsupported request => .error (.unsupported request)

/-- Make the edit that a request asks for. -/
def apply (document : MemoryDocument) (request : Request) : Except EditIssue MemoryDocument :=
  document.edit request.edit

/-- Make the edits of a batch one after the other; if one is refused, so is the
batch. -/
def applyAll (document : MemoryDocument) (requests : List Request) :
    Except EditIssue MemoryDocument :=
  requests.foldlM apply document

end MemoryDocument

end DocPress
