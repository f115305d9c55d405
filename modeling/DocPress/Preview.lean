import DocPress.Conversion
import DocPress.Text.Integer
import DocPress.Validation

/-!
# Previews

A preview shows what Markdown compiles to, as JSON over several lines, without
touching a document. The command of this library prints the preview of a file or
of its standard input.
-/

namespace DocPress

/-- The preview of a source for a position. Both arguments are checked. -/
def preview (source : Option Text) (insertAt : Json) (typography : Option Bool)
    (setting : Option String) : Except Failure Text := do
  let source ← validateSource source
  let start ← validatePositive insertAt "insert_at"
  return (compileMarkdown source start (typographyChoice typography none setting)).toJson.indented 0

namespace Preview

/-- Where the command finds its Markdown. -/
inductive Input
  /-- The contents of a file. -/
  | file (contents : Text)
  /-- The contents of standard input. -/
  | standard (contents : Text)

/-- The Markdown of an input. The line ends of a file are put into one form. -/
def Input.source : Input → Text
  | .file contents => unifyLineEnds contents
  | .standard contents => contents

/-- The file that the arguments of the command name; without one, or with a
hyphen in its place, the command reads standard input. -/
def fileName? : List String → Option String
  | [] => none
  | name :: _ => if name = "-" then none else some name

/-- The position that the arguments of the command give, or one. -/
def position (arguments : List String) : Except Failure Int :=
  match arguments with
  | _ :: position :: _ =>
      match readInteger? position.toList with
      | some position => .ok position
      | none => .error (Fault.badValue s!"no integer: {position}").alone
  | _ => .ok 1

/-- What the command prints. -/
def output (arguments : List String) (input : Input) (setting : Option String) :
    Except Failure Text := do
  let start ← position arguments
  return (← preview (some input.source) (.int start) none setting) ++ ['\n']

end Preview

end DocPress
