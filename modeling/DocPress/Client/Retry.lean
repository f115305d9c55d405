import DocPress.Client.Basic

/-!
# Guarded calls

A call to the service is guarded: its failures are put into the categories that
callers tell apart, and a call that only reads is tried again, after a wait,
when the secure channel failed. No call is tried more than three times.
-/

namespace DocPress

/-- A call that is guarded. -/
structure Guard where
  /-- The operation, as messages name it. -/
  operation : String
  /-- Whether the call only reads, so that it can be repeated. -/
  readOnly : Bool := false
  deriving DecidableEq, Repr

namespace Guard

/-- How often a call is tried at most. -/
def maxAttempts : Nat := 3

/-- The wait after a number of failed attempts, in seconds; it doubles each
time. -/
def delay (failed : Nat) : Nat :=
  Nat.pow 2 (failed - 1)

/-- A failure of a guarded call after a number of attempts, as callers see it.
Failures that are already in a category stay as they are. -/
def translate (guard : Guard) (attempts : Nat) (failure : Failure) : Failure :=
  match failure.fault with
  | .validation _ | .service .. | .tables .. | .transient _ => failure
  | .channel message =>
      { fault := .transient (.channelFailed guard.operation attempts)
        cause := some (.channel message) }
  | .errorReply reply =>
      { fault := .service (Category.ofStatus reply.status) reply.status
          (.refused guard.operation reply)
        cause := some (.errorReply reply) }
  | fault =>
      { fault := .service .general none (.unexpected guard.operation fault.message)
        cause := some fault }

/-- Whether another attempt may help. -/
def mayRepeat (guard : Guard) (failure : Failure) : Bool :=
  guard.readOnly &&
    match failure.fault with
    | .channel _ => true
    | _ => false

/-- Try a call that has failed `failed` times, and at most `left` times more
after that. -/
def tryFrom {σ α : Type} (guard : Guard) (wait : Nat → Action σ Unit) (call : Action σ α)
    (failed : Nat) : Nat → Action σ α
  | 0 => tryCatch call fun failure => .fail (guard.translate (failed + 1) failure)
  | left + 1 =>
      tryCatch call fun failure =>
        if guard.mayRepeat failure then do
          wait (delay (failed + 1))
          guard.tryFrom wait call (failed + 1) left
        else .fail (guard.translate (failed + 1) failure)

/-- Make a guarded call. -/
def run {σ α : Type} (guard : Guard) (wait : Nat → Action σ Unit) (call : Action σ α) :
    Action σ α :=
  guard.tryFrom wait call 0 (maxAttempts - 1)

end Guard

end DocPress
