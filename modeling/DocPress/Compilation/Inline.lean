import DocPress.Compilation.Entities
import DocPress.Node.Basic
import DocPress.Style

/-!
# Inline content as styled text

Inline nodes become text and the style operations over it. A styled container
covers exactly the text of its children, whose own operations come first, so
every style gets the tightest range. Nothing inside a link is styled apart from
the link itself.
-/

namespace DocPress

/-- Text with the style operations over it. -/
structure Styled where
  /-- The text. -/
  text : Text := []
  /-- The operations, in the order in which they arise. -/
  operations : List StyleOperation := []

namespace Styled

/-- Text without styles. -/
def plain (text : Text) : Styled :=
  { text }

/-- One styled text after another. -/
def append (first second : Styled) : Styled :=
  ⟨first.text ++ second.text, first.operations ++ second.operations⟩

/-- Styled text, from a position on, with one more style over all of it. -/
def wrap (styled : Styled) (start : Int) (style : Style) : Styled :=
  { styled with
    operations := styled.operations ++
      StyleOperation.covering start (start + units styled.text) style }

end Styled

/-! ## The styles of inline nodes -/

/-- Bold characters. -/
def boldStyle : Style := .text [("bold", .bool true)]

/-- Italic characters. -/
def italicStyle : Style := .text [("italic", .bool true)]

/-- Characters struck through. -/
def strikethroughStyle : Style := .text [("strikethrough", .bool true)]

/-- Blue underlined characters that link to a destination. -/
def linkStyle (destination : Text) : Style :=
  .text [("link", .object [("url", .string destination)]),
    ("foregroundColor", rgbColor (.decimal 6 (-2)) (.decimal 46 (-2)) (.decimal 88 (-2))),
    ("underline", .bool true)]

/-- The fixed-width font of code. -/
def codeFont : Json := .object [("fontFamily", .str "Consolas")]

/-- Characters of code on a light grey ground. -/
def codeSpanStyle : Style :=
  let grey : Numeral := .decimal 95 (-2)
  .text [("weightedFontFamily", codeFont), ("backgroundColor", rgbColor grey grey grey)]

/-! ## Rendering -/

mutual

/-- The styled text of a node that begins at a position. -/
def Inline.render (start : Int) : Inline → Styled
  | ⟨kind, text, children, href, checked⟩ =>
      match kind with
      | .strong => (renderInline start children).wrap start boldStyle
      | .emphasis => (renderInline start children).wrap start italicStyle
      | .strikethrough => (renderInline start children).wrap start strikethroughStyle
      | .link =>
          let label := Styled.plain
            (decodeEntities (if children.isEmpty then text else plainText children))
          match href with
          | some (c :: destination) => label.wrap start (linkStyle (c :: destination))
          | _ => label
      | .codeSpan => (Styled.plain (decodeEntities text)).wrap start codeSpanStyle
      | .text => .plain (decodeEntities text)
      | .softBreak => .plain [' ']
      | .hardBreak => .plain ['\n']
      | .checkbox => .plain [ballotBox checked]
      | .other _ =>
          if children.isEmpty then .plain (decodeEntities text) else renderInline start children

/-- The styled text of nodes that begin at a position. -/
def renderInline (start : Int) : List Inline → Styled
  | [] => {}
  | node :: rest =>
      let first := node.render start
      first.append (renderInline (start + units first.text) rest)

end

end DocPress
