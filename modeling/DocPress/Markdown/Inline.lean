import DocPress.Markdown.Spans

/-!
# Inline content

A span of a source is read item by item into tokens. Text is gathered until an
item needs a token of its own. Delimiters are matched when the whole span has
been read; the label of a link is a span of its own, and so is the label of an
image, which is read like a source of its own.
-/

namespace DocPress.Markdown

/-- What has been read of a span. -/
structure SpanState where
  /-- The tokens. -/
  tokens : Array Token := #[]
  /-- The text after the last token, in reverse. -/
  pending : Text := []
  /-- The delimiters among the tokens. -/
  delimiters : Array Delimiter := #[]
  /-- What is remembered of the source. -/
  memory : Memory

/-- A text token. -/
def textToken (content : Text) : Token :=
  .leaf "text" content

/-- The token that opens a link. -/
def linkOpening (destination : Text) : Token :=
  { name := "link_open", tag := ['a'], nesting := 1, href := some destination }

namespace SpanState

/-- Put the text gathered into a token. -/
def flush (state : SpanState) : SpanState :=
  if state.pending.isEmpty then state
  else { state with tokens := state.tokens.push (textToken state.pending.reverse), pending := [] }

/-- Add a token. -/
def push (state : SpanState) (token : Token) : SpanState :=
  let state := state.flush
  { state with tokens := state.tokens.push token }

/-- Add text. -/
def gather (state : SpanState) (content : Text) : SpanState :=
  { state with pending := content.reverse ++ state.pending }

/-- Add a delimiter with a token of its own. -/
def pushDelimiter (mark : Char) (length : Nat) (content : Text) (flanks : Flanks)
    (state : SpanState) : SpanState :=
  let state := state.push (textToken content)
  { state with
    delimiters := state.delimiters.push
      { mark, length, token := state.tokens.size - 1
        opens := flanks.opens, closes := flanks.closes } }

/-- Add a run of delimiters. Tildes come in pairs, and an odd one is text; any
other character is a delimiter by itself. -/
def pushRun (state : SpanState) (mark : Char) (length : Nat) (flanks : Flanks) : SpanState :=
  if mark = '~' then
    let state := if length % 2 = 1 then state.push (textToken ['~']) else state
    Nat.repeat (pushDelimiter mark 0 ['~', '~'] flanks) (length / 2) state
  else Nat.repeat (pushDelimiter mark length [mark] flanks) length state

/-- Add the end of a line: a hard break after two spaces, and else a soft one.
The spaces before it are dropped. -/
def pushLineEnd (state : SpanState) : SpanState :=
  match state.pending with
  | ' ' :: ' ' :: rest =>
      { state with pending := rest.dropWhile (· == ' ') }.push (.leaf "hardbreak")
  | ' ' :: rest => { state with pending := rest }.push (.leaf "softbreak")
  | _ => state.push (.leaf "softbreak")

/-- Add finished tokens between two others. -/
def pushAround (state : SpanState) (opening closing : Token) (tokens : List Token) : SpanState :=
  let state := state.push opening
  { state with tokens := (state.tokens ++ tokens.toArray).push closing }

end SpanState

/-- A reader of the span of a source between two positions, with the levels
left and what is remembered of the source. -/
abbrev SpanReader := Source → Nat → Memory → Nat → Nat → List Token × Memory

/-- The most levels of nested labels. -/
def maxLabelNesting : Nat := 20

/-- Add an item to what has been read of a span. -/
def addItem (label : SpanReader) (source : Source) (levels : Nat) (state : SpanState) :
    Item → SpanState
  | .text content => state.gather content
  | .special content => state.push (.leaf "text_special" content)
  | .lineEnd => state.pushLineEnd
  | .hardBreak => state.push (.leaf "hardbreak")
  | .code content => state.push (.leaf "code_inline" content)
  | .delimiters mark length flanks => state.pushRun mark length flanks
  | .link destination start stop =>
      let (tokens, memory) := label source (levels - 1) state.memory start stop
      { state with memory }.pushAround (linkOpening destination) (.closing "link_close" "a") tokens
  | .image start stop =>
      let content := source.slice start stop
      let inner := content.toArray
      let (children, _) := label inner maxLabelNesting (Memory.fresh inner) 0 inner.size
      state.push { name := "image", tag := "img".toList, content, children }
  | .autolink destination shown =>
      state.pushAround (linkOpening destination) (.closing "link_close" "a") [textToken shown]
  | .html content => state.push (.leaf "html_inline" content)

/-- Read a span from a position on. A character that begins no item is text. -/
def readItems (label : SpanReader) (definitions : Definitions) (source : Source)
    (levels stop pos : Nat) (state : SpanState) : SpanState :=
  if _inside : pos < stop then
    match itemAt (skipItem definitions source levels) definitions source stop pos state.memory with
    | (some (item, next), memory) =>
        let state := addItem label source levels { state with memory } item
        if _forward : pos < next then
          readItems label definitions source levels stop next state
        else state
    | (none, memory) =>
        let state := { state with memory }.gather (source.slice pos (pos + 1))
        readItems label definitions source levels stop (pos + 1) state
  else state
termination_by stop - pos

/-- Read a span. The label of a link or an image is shorter than the span that
it stands in, so the length of the source bounds the depth. -/
def readSpan (definitions : Definitions) : Nat → SpanReader
  | 0, _, _, memory, _, _ => ([], memory)
  | depth + 1, source, levels, memory, start, stop =>
      let state :=
        (readItems (readSpan definitions depth) definitions source levels stop start
          { memory }).flush
      (matchDelimiters state.delimiters state.tokens, state.memory)

/-- The tokens of inline content. -/
def inlineTokens (definitions : Definitions) (content : Text) : List Token :=
  let source := content.toArray
  (readSpan definitions (source.size + 1) source maxLabelNesting (Memory.fresh source) 0
    source.size).1

end DocPress.Markdown
