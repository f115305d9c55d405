import DocPress.Text.Basic

/-!
# Markdown tokens

A reader of Markdown reports what it finds as a flat stream of tokens. A
container is a token that opens and one that closes, named alike but for the
ending; the inline content of a block is one token with tokens inside it.
-/

namespace DocPress

/-- One token of the stream. -/
structure Token where
  /-- The name of the token, such as `paragraph_open`. -/
  name : String
  /-- The element a block stands for, such as `h2`. -/
  tag : Text := []
  /-- One for a token that opens a container, minus one for one that closes a
  container, zero for any other. -/
  nesting : Int := 0
  /-- The text of the token. -/
  content : Text := []
  /-- The destination of a link. -/
  href : Option Text := none
  /-- The tokens of inline content. -/
  children : List Token := []
  deriving Inhabited

namespace Token

/-- The ending of the name of a token that opens a container. -/
def openEnding : Text := "_open".toList

/-- The ending of the name of a token that closes a container. -/
def closeEnding : Text := "_close".toList

/-- The name of the token that closes what a token of the given name opens. -/
def closingName (name : String) : String :=
  String.ofList (replaceAll openEnding closeEnding name.toList)

/-- What is left of a token's name without the ending for opening. -/
def baseName (name : String) : String :=
  match dropLeading? openEnding.reverse name.toList.reverse with
  | some base => String.ofList base.reverse
  | none => name

/-- A token that opens a container. -/
def opening (name : String) (tag : String) : Token :=
  { name, tag := tag.toList, nesting := 1 }

/-- A token that closes a container. -/
def closing (name : String) (tag : String) : Token :=
  { name, tag := tag.toList, nesting := -1 }

/-- A token that stands for itself. -/
def leaf (name : String) (content : Text := []) : Token :=
  { name, content }

end Token

end DocPress
