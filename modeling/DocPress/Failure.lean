import DocPress.Json.Printer
import DocPress.Json.Reader
import DocPress.Text.Blank

/-!
# Failures

What can go wrong, by cause. `Fault.message` is the one place where a cause is
put into words. A `Failure` is a fault together with the fault it was raised
from, if there was one.
-/

namespace DocPress

/-- An identifier or title in a message; one that is missing shows as `None`. -/
def shownName (name : Option String) : String :=
  name.getD "None"

/-- An integer in a message; one that is missing shows as `None`. -/
def shownInt (value : Option Int) : String :=
  match value with
  | some value => toString value
  | none => "None"

/-- Why an argument was refused. -/
inductive ValidationIssue
  /-- Nothing was given. -/
  | missing (name : String)
  /-- Only blanks were given. -/
  | blank (name : String)
  /-- A document identifier holds a character other than word characters and
  hyphens. -/
  | invalidCharacters (name : String)
  /-- The value is not an integer above zero. -/
  | notPositive (name : String)
  /-- The value is above its limit. -/
  | tooLarge (name : String) (limit : Int)
  /-- The Markdown source is no text. -/
  | sourceNotText
  /-- A table descriptor does not say where the table belongs. -/
  | unanchoredTable
  /-- An issue reported from outside, in its own words. -/
  | reported (message : String)
  deriving DecidableEq, Repr

/-- The words for a validation issue. -/
def ValidationIssue.message : ValidationIssue → String
  | .missing name => s!"{name} is required"
  | .blank name => s!"{name} cannot be empty"
  | .invalidCharacters name => s!"{name} contains invalid characters"
  | .notPositive name => s!"{name} must be a positive integer"
  | .tooLarge name limit => s!"{name} cannot exceed {limit}"
  | .sourceNotText => "markdown must be a string"
  | .unanchoredTable => "Table descriptor has no anchor offset"
  | .reported message => message

/-- Why a document refused an edit. -/
inductive EditIssue
  /-- No document has the identifier. -/
  | unknownDocument (id : Option String)
  /-- The edit was chosen to fail. -/
  | simulated
  /-- A range to be styled is empty or leaves the document. -/
  | styleRange (start stop : Int) (request : String)
  /-- The kind of request is unknown. -/
  | unsupported (request : String)
  /-- An insertion without text. -/
  | emptyInsertion
  /-- An insertion outside every paragraph. -/
  | outsideParagraph (index : Int)
  /-- A table insertion outside every top-level paragraph. -/
  | tableOutsideParagraph (index : Int)
  /-- A range to be deleted is empty or leaves the body. -/
  | deleteRange (start stop : Int)
  /-- A range to be deleted cuts through a table. -/
  | partialTable
  /-- A paragraph would no longer end with a line end. -/
  | lostLineEnd
  deriving DecidableEq, Repr

/-- The words for a refused edit. -/
def EditIssue.message : EditIssue → String
  | .unknownDocument id => s!"Requested entity was not found: {shownName id}"
  | .simulated => "Simulated backend failure"
  | .styleRange start stop request => s!"Invalid range [{start}, {stop}) for {request}"
  | .unsupported request => s!"Unsupported request: {request}"
  | .emptyInsertion => "Insert text cannot be empty"
  | .outsideParagraph index => s!"Index {index} must be inside an existing paragraph"
  | .tableOutsideParagraph index => s!"Cannot insert a table at index {index}"
  | .deleteRange start stop => s!"Invalid delete range [{start}, {stop})"
  | .partialTable => "Cannot delete part of a table"
  | .lostLineEnd => "Paragraph would lose its newline"

/-- An error reply of the document service: its status, reason phrase and
body. -/
structure ErrorReply where
  /-- The status code. -/
  status : Option Int
  /-- The reason phrase that came with the status. -/
  reason : Option String
  /-- The body of the reply. -/
  body : String
  deriving DecidableEq, Repr

namespace ErrorReply

/-- The first of the members that may hold an error's details. -/
def firstDetail? (error : Json) : Option Json :=
  ["detail", "details", "errors", "message"].findSome? (error.member? ·)

/-- The reason and the details that the `error` member of a value states. A
`message` that is missing leaves both as they were; one that is null gives an
empty reason. -/
def stated (error : Option Json) (detail? : Json → Option Json) (reason : String) :
    String × Option Json :=
  match error with
  | none => (reason, none)
  | some error =>
      match error.member? "message" with
      | some (.string message) => (String.ofList message, detail? error)
      | some .null => ("", detail? error)
      | _ => (reason, none)

/-- The reason and the details of an error reply. A JSON object states both in
its `error` member, a JSON list in that of its first item; any other body is
itself the details, unless it holds an integer that is too long to be read. -/
def account (reply : ErrorReply) : String × Option Json :=
  let reason := reply.reason.getD ""
  match Json.read reply.body.toList with
  | .error .malformed => (reason, some (.str reply.body))
  | .error .tooManyDigits => (reason, none)
  | .ok (.object members) => stated (members.lookup "error") firstDetail? reason
  | .ok (.array (first :: _)) => stated (first.member? "error") (Json.member? "details") reason
  | .ok body => (reason, some body)

/-- The words for an error reply. -/
def message (reply : ErrorReply) : String :=
  let (reason, details) := reply.account
  let reason := String.ofList (trim reason.toList)
  let status := shownInt reply.status
  match details.filter Json.isSubstantial with
  | some details =>
      let details := String.ofList details.plainForm
      s!"<HttpError {status} when requesting None returned \"{reason}\". Details: \"{details}\">"
  | none => s!"<HttpError {status} \"{reason}\">"

end ErrorReply

/-- The kinds of service error that callers tell apart. -/
inductive Category
  | general
  | notFound
  | permissionDenied
  | rateLimited
  deriving DecidableEq, Repr

/-- The category of a status code. -/
def Category.ofStatus (status : Option Int) : Category :=
  if status = some 404 then .notFound
  else if status = some 401 || status = some 403 then .permissionDenied
  else if status = some 429 then .rateLimited
  else .general

/-- What a service error is about. -/
inductive ServiceIssue
  /-- The service answered a call with an error reply. -/
  | refused (operation : String) (reply : ErrorReply)
  /-- A call failed in a way no one expected. -/
  | unexpected (operation : String) (reason : String)
  /-- After an insertion at the index, no table lies there or later. -/
  | tableMissing (anchor : Int)
  /-- The document refused an edit. -/
  | edit (issue : EditIssue)
  /-- An error reported from outside, in its own words. -/
  | reported (message : String)
  deriving DecidableEq, Repr

/-- The words for a service error. -/
def ServiceIssue.message : ServiceIssue → String
  | .refused operation reply =>
      let advice :=
        if Category.ofStatus reply.status = .permissionDenied then
          ". You might need to re-authenticate or request access to the document."
        else ""
      s!"API error in {operation}: {reply.message}{advice}"
  | .unexpected operation reason => s!"An unexpected error occurred in {operation}: {reason}"
  | .tableMissing anchor => s!"No table found at or after index {anchor} after insertTable"
  | .edit issue => issue.message
  | .reported message => message

/-- Why the insertion of tables stopped. -/
inductive TableIssue
  /-- The table that belongs at the anchor failed. -/
  | failedAt (anchor : Int) (reason : String)
  /-- A reason reported from outside, in its own words. -/
  | reported (message : String)
  deriving DecidableEq, Repr

/-- The words for a table issue. -/
def TableIssue.message : TableIssue → String
  | .failedAt anchor reason => s!"Failed to materialize table at index {anchor}: {reason}"
  | .reported message => message

/-- Why a call was given up as transient. -/
inductive TransientIssue
  /-- The secure channel failed at every attempt. -/
  | channelFailed (operation : String) (attempts : Nat)
  /-- An issue reported from outside, in its own words. -/
  | reported (message : String)
  deriving DecidableEq, Repr

/-- The words for a transient issue. -/
def TransientIssue.message : TransientIssue → String
  | .channelFailed operation attempts =>
      s!"A transient SSL error occurred in '{operation}' after {attempts} attempt(s). " ++
        "This is likely a temporary network or certificate issue. Please try again shortly."
  | .reported message => message

/-- Everything that can go wrong. -/
inductive Fault
  /-- An argument was refused. -/
  | validation (issue : ValidationIssue)
  /-- A publishing error of no particular kind. -/
  | publishing (message : String)
  /-- The document service failed. -/
  | service (category : Category) (status : Option Int) (issue : ServiceIssue)
  /-- The insertion of tables stopped part of the way. -/
  | tables (issue : TableIssue) (completed remaining : Int) (status : Option Int)
  /-- Positions of one generation were used at another. -/
  | stale (layout current : Int)
  /-- A call was given up; trying again may help. -/
  | transient (issue : TransientIssue)
  /-- An error reply that no one has put into a category yet. -/
  | errorReply (reply : ErrorReply)
  /-- The secure channel failed. -/
  | channel (message : String)
  /-- A value was refused by the environment. -/
  | badValue (message : String)
  /-- The environment failed while running. -/
  | runtime (message : String)
  /-- A style operation lacks an attribute that it needs. -/
  | missingAttribute (name : String)
  /-- A position beyond the end of a list was asked for. -/
  | outOfRange
  deriving DecidableEq, Repr

/-- The words for a fault. -/
def Fault.message : Fault → String
  | .validation issue => issue.message
  | .publishing message => message
  | .service _ _ issue => issue.message
  | .tables issue completed remaining _ =>
      s!"{issue.message} ({completed} table(s) materialized, {remaining} not applied)"
  | .stale layout current =>
      s!"Table layout from generation {layout} used at generation {current}; " ++
        "re-query the document after every structural change."
  | .transient issue => issue.message
  | .errorReply reply => reply.message
  | .channel message => message
  | .badValue message => message
  | .runtime message => message
  | .missingAttribute name => name
  | .outOfRange => "position out of range"

/-- The status code that a fault carries; only service errors carry one. -/
def Fault.status? : Fault → Option Int
  | .service _ status _ => status
  | .tables _ _ _ status => status
  | _ => none

/-- A fault and the fault it was raised from. -/
structure Failure where
  /-- What went wrong. -/
  fault : Fault
  /-- What it was raised from. -/
  cause : Option Fault := none
  deriving DecidableEq, Repr

/-- A fault that was raised from no other. -/
def Fault.alone (fault : Fault) : Failure :=
  { fault }

end DocPress
