import DocPress.Client.Basic
import DocPress.Snapshot.Layout

/-!
# Generations of a document

Whoever edits a document in several batches keeps count of them. The count is
the generation of the document, and positions read at one generation may not be
used at another.
-/

namespace DocPress

/-- The state of a client together with the generation of the document. -/
structure Tracked (σ : Type) where
  /-- The number of batches sent so far. -/
  generation : Int := 0
  /-- The state of the client. -/
  state : σ

namespace Tracked

variable {σ α : Type}

/-- An action of the client that leaves the generation alone. -/
def lift (action : Action σ α) : Action (Tracked σ) α :=
  ExceptT.mk fun tracked =>
    let (result, state) := action.run.run tracked.state
    (result, { tracked with state })

/-- Read a document. -/
def query (client : Client σ) (id : Option String) : Action (Tracked σ) Snapshot :=
  lift (client.query id)

/-- Send a batch. A new generation begins even if the batch fails, since the
positions read before may be wrong by then. -/
def mutate (client : Client σ) (id : Option String) (requests : List Request) :
    Action (Tracked σ) Json := do
  modify fun tracked => { tracked with generation := tracked.generation + 1 }
  lift (client.mutate id requests)

/-- The first table that begins at an anchor or later; right after an insertion
at the anchor, that is the table inserted. -/
def locate (client : Client σ) (id : Option String) (anchor : Int) :
    Action (Tracked σ) TableLayout := do
  let snapshot ← query client id
  let beginsLater (layout : TableLayout) : Bool := layout.start.any (anchor ≤ ·)
  match (snapshot.tables (← get).generation).find? beginsLater with
  | some layout => return layout
  | none => .fail (Fault.service .general none (.tableMissing anchor)).alone

/-- Refuse a layout of another generation. -/
def requireFresh (layout : TableLayout) : Action (Tracked σ) Unit := do
  let current := (← get).generation
  if layout.generation ≠ current then
    .fail (Fault.stale layout.generation current).alone

end Tracked

end DocPress
