import DocPress.Publication.Basic
import DocPress.Validation

/-!
# Operations on documents

Five things can be done with a document: create it, insert Markdown at its end,
replace its content, append Markdown as new paragraphs, and read its text. Each
checks its arguments before it touches a document, and answers with a message.
-/

namespace DocPress

namespace Publication

variable {σ : Type}

/-- Create a document and fill it with Markdown, unless the Markdown is
blank. -/
def createDocument (client : Client σ) (title : Option String) (source : Option Text)
    (typography : Bool) : Action σ String := do
  let title ← .ofExcept (validateTitle title)
  let source ← .ofExcept (validateSource source)
  let id ← client.create title
  let created := s!"Created Google Doc '{title}' (ID: {shownName id})."
  let link := documentUrl id
  if (trim source).isEmpty then return s!"{created} Link: {link}"
  let publication ← apply client id source 1 [] typography
  return s!"{created} Inserted Markdown: {publication.summary}. Link: {link}"

/-- The position of the last line end of a document, which stays where it
is. -/
def lastLineEnd (snapshot : Snapshot) : Int :=
  max (snapshot.stop.getD 1 - 1) 1

/-- Insert Markdown before the last line end of a document. -/
def insertMarkdown (client : Client σ) (id : Option String) (source : Option Text)
    (typography : Bool) : Action σ String := do
  let id ← .ofExcept (validateDocumentId id)
  let source ← .ofExcept (validateSource source)
  let start := lastLineEnd (← client.query id)
  let publication ← apply client id source start [] typography
  return s!"Inserted Markdown into document {id} at index {start}: " ++
    s!"{publication.summary}. Link: {documentUrl id}"

/-- Delete what a document holds before its last line end. -/
def clearing (snapshot : Snapshot) : List Request :=
  let last := lastLineEnd snapshot
  if 1 < last then [.deleteRange 1 last] else []

/-- Replace the content of a document by Markdown. -/
def replaceContent (client : Client σ) (id : Option String) (source : Option Text)
    (typography : Bool) : Action σ String := do
  let id ← .ofExcept (validateDocumentId id)
  let source ← .ofExcept (validateSource source)
  let first := clearing (← client.query id)
  let publication ← apply client id source 1 first typography
  return s!"Replaced content of document {id} at index 1: " ++
    s!"{publication.summary}. Link: {documentUrl id}"

/-- Append Markdown to a document. A line end inserted in the same batch keeps
it apart from the paragraph before it. -/
def appendMarkdown (client : Client σ) (id : Option String) (source : Option Text)
    (typography : Bool) : Action σ String := do
  let id ← .ofExcept (validateDocumentId id)
  let source ← .ofExcept (validateSource source)
  let last := lastLineEnd (← client.query id)
  let first := [Request.insertText last ['\n']]
  let publication ← apply client id source (last + 1) first typography
  return s!"Appended Markdown to document {id} at index {last + 1}: " ++
    s!"{publication.summary}. Link: {documentUrl id}"

/-- The kind of file that documents are. -/
def documentType : String := "application/vnd.google-apps.document"

/-- Read a document: its title and link, and then its text. -/
def readDocument (client : Client σ) (id : Option String) : Action σ Text := do
  let id ← .ofExcept (validateDocumentId id)
  let snapshot ← client.query id
  let heading := s!"File: \"{shownName snapshot.title}\" (ID: {id}, Type: {documentType})\n" ++
    s!"Link: {documentUrl id}\n\n--- CONTENT ---\n"
  return heading.toList ++ snapshot.text

end Publication

end DocPress
