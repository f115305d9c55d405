import DocPress.Client.Retry

/-!
# The client of the document service

The service answers three kinds of calls with JSON. The client guards each call
and reads the replies.
-/

namespace DocPress

/-- A call to the document service. -/
inductive Call
  /-- Read a document. -/
  | get (id : Option String)
  /-- Apply a batch of edits to a document. -/
  | batchUpdate (id : Option String) (requests : List Request)
  /-- Create a document. -/
  | create (title : String)

/-- How a call is guarded: only reading may be repeated. -/
def Call.guard : Call → Guard
  | .get _ => { operation := "documents.get", readOnly := true }
  | .batchUpdate .. => { operation := "documents.batchUpdate" }
  | .create _ => { operation := "documents.create" }

/-- A document service. -/
structure Service (σ : Type) where
  /-- Make a call once. -/
  call : Call → Action σ Json
  /-- Wait for some seconds. -/
  wait : Nat → Action σ Unit

namespace Service

variable {σ : Type} (service : Service σ)

/-- Make a guarded call. -/
def ask (call : Call) : Action σ Json :=
  call.guard.run service.wait (service.call call)

/-- The client of a service. -/
def client : Client σ where
  query id := do return .ofJson (← service.ask (.get id))
  mutate id requests := service.ask (.batchUpdate id requests)
  create title := do
    return ((← service.ask (.create title)).member? "documentId").bind Json.text? |>.map
      String.ofList

end Service

end DocPress
