import DocPress.Failure
import DocPress.Text.Word

/-!
# Checks of arguments

Identifiers, counts and sources are checked before they are used. A check
returns the value to go on with.
-/

namespace DocPress

/-- A refused argument. -/
def refuse {α : Type} (issue : ValidationIssue) : Except Failure α :=
  .error (Fault.validation issue).alone

/-- Whether a character can stand in a document identifier. -/
def isIdChar (c : Char) : Bool :=
  isWord c || c == '-'

/-- A document identifier without the blanks around it. It must have at least
one character, and only word characters and hyphens. -/
def validateDocumentId (id : Option String) (name : String := "document_id") :
    Except Failure String :=
  match id with
  | none => refuse (.missing name)
  | some id =>
      if id.isEmpty then refuse (.missing name)
      else
        let trimmed := trim id.toList
        if trimmed.isEmpty then refuse (.blank name)
        else if trimmed.all isIdChar then .ok (String.ofList trimmed)
        else refuse (.invalidCharacters name)

/-- A positive integer, at most the limit if there is one. -/
def validatePositive (value : Json) (name : String) (limit : Option Int := none) :
    Except Failure Int :=
  match value.int? with
  | none => refuse (.notPositive name)
  | some n =>
      if n < 1 then refuse (.notPositive name)
      else
        match limit with
        | some limit => if limit < n then refuse (.tooLarge name limit) else .ok n
        | none => .ok n

/-- A Markdown source; `none` stands for a value that is no text. -/
def validateSource (source : Option Text) : Except Failure Text :=
  match source with
  | some source => .ok source
  | none => refuse .sourceNotText

/-- A title with at least one character that is not blank. -/
def validateTitle (title : Option String) : Except Failure String :=
  match title with
  | some title =>
      if (trim title.toList).isEmpty then refuse (.missing "title") else .ok title
  | none => refuse (.missing "title")

end DocPress
