import DocPress.Text.Basic

/-!
# The tree of a Markdown document

A document is a list of blocks, and blocks hold inline nodes. A node has one
record of fields whatever its kind; the kind says which of them count. A kind
that this library does not know is kept by its name, together with the text and
the children of the node, so that such a node can be shown as plain text.
-/

namespace DocPress

/-- What an inline node is. -/
inductive Inline.Kind
  | text
  | strong
  | emphasis
  | strikethrough
  | link
  | codeSpan
  | softBreak
  | hardBreak
  | checkbox
  | other (name : String)
  deriving DecidableEq, Repr, Inhabited

/-- The kind with a given name. -/
def Inline.Kind.ofName (name : String) : Inline.Kind :=
  match name with
  | "text" => .text
  | "strong" => .strong
  | "em" => .emphasis
  | "s" => .strikethrough
  | "link" => .link
  | "codespan" => .codeSpan
  | "softbreak" => .softBreak
  | "hardbreak" => .hardBreak
  | "checkbox" => .checkbox
  | name => .other name

/-- The name of a kind. -/
def Inline.Kind.name : Inline.Kind → String
  | .text => "text"
  | .strong => "strong"
  | .emphasis => "em"
  | .strikethrough => "s"
  | .link => "link"
  | .codeSpan => "codespan"
  | .softBreak => "softbreak"
  | .hardBreak => "hardbreak"
  | .checkbox => "checkbox"
  | .other name => name

/-- A piece of text, or a styled or otherwise marked run of such pieces. -/
structure Inline where
  /-- What the node is. -/
  kind : Inline.Kind
  /-- The text of a leaf, or the source of a node with children. -/
  text : Text := []
  /-- The nodes inside this one. -/
  children : List Inline := []
  /-- The destination of a link. -/
  href : Option Text := none
  /-- Whether a checkbox is ticked. -/
  checked : Bool := false
  deriving Inhabited

/-- What a block is. -/
inductive Block.Kind
  | heading
  | paragraph
  | list
  | table
  | code
  | quote
  | rule
  | other (name : String)
  deriving DecidableEq, Repr, Inhabited

/-- The kind with a given name. -/
def Block.Kind.ofName (name : String) : Block.Kind :=
  match name with
  | "heading" => .heading
  | "paragraph" => .paragraph
  | "list" => .list
  | "table" => .table
  | "code" => .code
  | "blockquote" => .quote
  | "hr" => .rule
  | name => .other name

/-- The name of a kind. -/
def Block.Kind.name : Block.Kind → String
  | .heading => "heading"
  | .paragraph => "paragraph"
  | .list => "list"
  | .table => "table"
  | .code => "code"
  | .quote => "blockquote"
  | .rule => "hr"
  | .other name => name

/-- A block of a document. -/
structure Block where
  /-- What the block is. -/
  kind : Block.Kind
  /-- The content of a heading or a paragraph. -/
  content : List Inline := []
  /-- The depth of a heading. -/
  depth : Int := 0
  /-- Whether a list is numbered. -/
  ordered : Bool := false
  /-- The items of a list. -/
  items : List (List Block) := []
  /-- The header cells of a table. -/
  header : List (List Inline) := []
  /-- The body rows of a table. -/
  rows : List (List (List Inline)) := []
  /-- The text of a code block, or the source of an unknown block. -/
  text : Text := []
  /-- The blocks inside a quote or an unknown container. -/
  children : List Block := []
  deriving Inhabited

/-- An empty or a ticked ballot box. -/
def ballotBox (checked : Bool) : Char :=
  if checked then '☑' else '☐'

/-- The text of a node without children. A line break counts as a blank. -/
def Inline.leafText (kind : Inline.Kind) (text : Text) (checked : Bool) : Text :=
  match kind with
  | .softBreak | .hardBreak => [' ']
  | .checkbox => [ballotBox checked]
  | _ => text

mutual

/-- The text of a node, without styles: that of its children if it has any. -/
def Inline.plainText : Inline → Text
  | ⟨kind, text, children, _, checked⟩ =>
      if children.isEmpty then Inline.leafText kind text checked else plainText children

/-- The text of nodes, without styles. -/
def plainText : List Inline → Text
  | [] => []
  | node :: rest => node.plainText ++ plainText rest

end

end DocPress
