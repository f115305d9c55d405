import DocPress.Request
import DocPress.Failure
import DocPress.Snapshot.Basic

/-!
# Clients

A client gives access to documents: read one, apply a batch of edits to one,
create one. Nothing is said about where the documents are; each client has a
state of its own, and what was done before a failure stays done.
-/

namespace DocPress

/-- An action changes a state and may fail. A failure keeps the state reached. -/
abbrev Action (σ α : Type) := ExceptT Failure (StateM σ) α

/-- A failed action. -/
def Action.fail {σ α : Type} (failure : Failure) : Action σ α :=
  throw failure

/-- The result of a check as an action that leaves the state alone. -/
def Action.ofExcept {σ α : Type} : Except Failure α → Action σ α
  | .ok value => pure value
  | .error failure => .fail failure

/-- Access to documents. An identifier may be missing where a reply of the
service did not state it. -/
structure Client (σ : Type) where
  /-- Read a document. -/
  query : Option String → Action σ Snapshot
  /-- Apply a batch of edits to a document. The reply says nothing of use. -/
  mutate : Option String → List Request → Action σ Json
  /-- Create a document with a title; the result is its identifier. -/
  create : String → Action σ (Option String)

end DocPress
