import DocPress.Markdown.Blocks
import DocPress.Markdown.Inline

/-!
# Reading Markdown

A source is CommonMark with tables, strikethrough and task lists. Reading takes
four steps: line ends are put into one form; blocks and link definitions are
read; the inline content of each block is read, with the definitions of the
whole source; and the items of task lists get their checkboxes.
-/

namespace DocPress.Markdown

/-- A text with its line ends in one form and no null character. -/
def normalizeSource (text : Text) : Text :=
  (unifyLineEnds text).map fun c => if c = '\x00' then '\uFFFD' else c

/-! ## Task lists -/

/-- Whether inline content begins with the box of a task: a blank or an x in
brackets, and a blank of ASCII. -/
def beginsTask : Text → Bool
  | '[' :: mark :: ']' :: gap :: _ =>
      (mark == ' ' || mark == 'x' || mark == 'X') && isAsciiBlank gap
  | _ => false

/-- The source of a task's checkbox. It is empty when the gap after the box does
not begin with a space. -/
def checkboxHtml (content : Text) : Text :=
  let checkbox (attributes : String) : Text :=
    (s!"<input class=\"task-list-item-checkbox\" {attributes}" ++
      "disabled=\"disabled\" type=\"checkbox\">").toList
  match content with
  | '[' :: mark :: ']' :: ' ' :: _ =>
      if mark = ' ' then checkbox "" else checkbox "checked=\"checked\" "
  | _ => []

/-- Inline tokens with the box at their start taken off. -/
def dropBox : List Token → List Token
  | [] => []
  | first :: rest => { first with content := first.content.drop 3 } :: rest

/-- The inline content of a task, with its checkbox in front. -/
def taskToken (token : Token) : Token :=
  { token with
    children := .leaf "html_inline" (checkboxHtml token.content) :: dropBox token.children }

/-- Tokens with checkboxes in the list items that are tasks: those whose first
block is a paragraph that begins with a box. -/
def markTasks : List Token → List Token
  | item :: paragraph :: content :: rest =>
      if item.name == "list_item_open" && paragraph.name == "paragraph_open" &&
          content.name == "inline" && beginsTask content.content then
        item :: paragraph :: taskToken content :: markTasks rest
      else item :: markTasks (paragraph :: content :: rest)
  | tokens => tokens
termination_by tokens => tokens.length

/-! ## Whole sources -/

/-- Inline tokens in which escaped characters are text like any other. -/
def joinSpecials (tokens : List Token) : List Token :=
  joinTexts <| tokens.map fun token =>
    if token.name == "text_special" then { token with name := "text" } else token

/-- Inline content in which escaped characters are text like any other, also in
the labels of its images. In the label of an image inside another one they stay
apart. -/
def joinContent (token : Token) : Token :=
  let joinLabel (token : Token) : Token :=
    if token.name == "image" then { token with children := joinSpecials token.children } else token
  { token with children := joinSpecials (token.children.map joinLabel) }

/-- A block token with the tokens of its inline content. -/
def withChildren (definitions : Definitions) (token : Token) : Token :=
  if token.name == "inline" then
    { token with children := inlineTokens definitions token.content }
  else token

/-- The tokens of a source. -/
def tokens (text : Text) : List Token :=
  let reading := readBlocks (normalizeSource text).toArray
  let blocks := reading.tokens.map (withChildren reading.definitions)
  (markTasks blocks).map joinContent

end DocPress.Markdown
