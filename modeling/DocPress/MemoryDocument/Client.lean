import DocPress.Client.Basic
import DocPress.MemoryDocument.Edit

/-!
# The client of a document in memory

The client knows one document. A batch is applied as a whole or not at all. For
trying out what happens when the service fails, one batch can be chosen to fail.
-/

namespace DocPress

/-- The status code that comes with a refused edit. -/
def EditIssue.status : EditIssue → Int
  | .unknownDocument _ => 404
  | .simulated => 500
  | _ => 400

/-- A refused edit as a failure of the service. -/
def EditIssue.failure (issue : EditIssue) : Failure :=
  let status := some issue.status
  (Fault.service (Category.ofStatus status) status (.edit issue)).alone

namespace MemoryDocument

/-- Refuse every identifier but that of the document. -/
def checkId (id : Option String) : Action MemoryDocument Unit := do
  if (← get).id ≠ id then .fail (EditIssue.unknownDocument id).failure

/-- Read the document. -/
def query (id : Option String) : Action MemoryDocument Snapshot := do
  checkId id
  return (← get).snapshot

/-- The reply to a batch: an empty answer to each request. -/
def batchReply (id : Option String) (requests : List Request) : Json :=
  .object [("documentId", Snapshot.nameJson id),
    ("replies", .array (requests.map fun _ => .object []))]

/-- Apply a batch, unless it was chosen to fail. -/
def mutate (id : Option String) (requests : List Request) : Action MemoryDocument Json := do
  checkId id
  modify fun document => { document with mutations := document.mutations + 1 }
  let document ← get
  if document.failAt = some document.mutations then
    .fail EditIssue.simulated.failure
  else
    match document.applyAll requests with
    | .ok edited =>
        set edited
        return batchReply id requests
    | .error issue => .fail issue.failure

/-- Turn the document into a new one: it gets the title and loses its text. -/
def create (title : String) : Action MemoryDocument (Option String) := do
  modify fun document => { document with title := some title, elements := blank }
  return (← get).id

/-- The client of a document in memory. -/
def client : Client MemoryDocument where
  query := query
  mutate := mutate
  create := create

end MemoryDocument

end DocPress
