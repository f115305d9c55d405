import DocPress.Conversion
import DocPress.Tables.Insertion

/-!
# Publishing a compilation

Markdown is compiled for a position of a document and applied there: one batch
for the text and its styles, and after it the tables.
-/

namespace DocPress

/-- Markdown that was applied to a document. -/
structure Publication where
  /-- What the Markdown compiles to. -/
  compilation : Compilation
  /-- What became of its tables. -/
  report : TableReport

namespace Publication

variable {σ : Type}

/-- Insert the tables of a compilation; generations are counted from zero. -/
def insertTables (client : Client σ) (id : Option String) (tables : List TableDescriptor) :
    Action σ TableReport :=
  if tables.isEmpty then return {}
  else
    ExceptT.mk fun state =>
      let (result, tracked) := (Tracked.insertTables client id tables).run.run { state }
      (result, tracked.state)

/-- Apply a compilation. The requests that go first, in the same batch, must
leave its position where the text belongs. No batch is sent when there is
nothing to do. -/
def applyCompilation (client : Client σ) (id : Option String) (first : List Request)
    (compilation : Compilation) : Action σ Publication := do
  let requests := first ++ compilation.requests
  unless requests.isEmpty do
    let _ ← client.mutate id requests
  return { compilation, report := ← insertTables client id compilation.tables }

/-- Compile Markdown for a position and apply it. -/
def apply (client : Client σ) (id : Option String) (source : Text) (start : Int)
    (first : List Request) (typography : Bool) : Action σ Publication :=
  applyCompilation client id first (compileMarkdown source start typography)

/-- A publication in words: its styles, and its tables if there are any. -/
def summary (publication : Publication) : String :=
  let report := publication.report
  let styles := s!"{publication.compilation.operations.length} style operation(s)"
  let missing :=
    if report.skipped = 0 then ""
    else s!" ({report.skipped} cell(s) missing from the document)"
  if publication.compilation.tables.isEmpty then styles
  else s!"{styles}, {report.inserted} table(s) with {report.filled} filled cell(s){missing}"

end Publication

end DocPress
