import DocPress.Markdown.Link
import DocPress.Markdown.Page
import DocPress.Markdown.Url

/-!
# Link definitions

A definition gives a label a destination: `[label]: destination "title"`, where
blanks and one line end may stand between the parts. It begins where a
paragraph could begin, and leaves nothing in the document.
-/

namespace DocPress.Markdown

namespace Page

/-- The line before which a definition or paragraph that goes through the line
before `n` has to end. -/
def definitionEnd (page : Page) (n : Nat) : Nat :=
  if _inside : n < page.limit then
    if page.isEmpty n || (!page.continuesParagraph n && page.interruptsDefinition page.limit n) then
      n
    else page.definitionEnd (n + 1)
  else n
termination_by page.limit - n

/-- The end of the label of a definition: the first closing bracket that is not
escaped. No opening bracket may come before it. -/
def labelEnd? (source : Source) (pos : Nat) : Option Nat :=
  if _inside : pos < source.size then
    match source[pos] with
    | '[' => none
    | ']' => some pos
    | '\\' => labelEnd? source (pos + 2)
    | _ => labelEnd? source (pos + 1)
  else none
termination_by source.size - pos

/-- Whether nothing but blanks stands between a position and the end of its
line, and where they end. -/
def lineEnd? (source : Source) (pos : Nat) : Option Nat :=
  let after := source.skip isIndent pos
  if after < source.size && source[after]? != some '\n' then none else some after

/-- The position at which a definition ends, given where its destination ends. A
title counts only if nothing follows it on its line; if something does, the
definition can still end before the title. -/
def afterTitle? (source : Source) (pos : Nat) : Option Nat :=
  let start := skipGap source source.size pos
  let bare := (lineEnd? source pos).map fun _ => pos
  match titleAt source source.size start with
  | .found title next =>
      if start = pos then bare
      else if (lineEnd? source next).isSome then some next
      else if title.isEmpty then none
      else bare
  | _ => bare

/-- The definition at the start of a source: its label key, its destination and
the position at which it ends. The destination ends on its line at the latest;
one that takes the end of its line with a backslash has no title. -/
def readDefinition? (source : Source) : Option (Text × Text × Nat) := do
  guard (source[0]? == some '[')
  let close ← labelEnd? source 1
  guard (source[close + 1]? == some ':')
  let start := skipGap source source.size (close + 2)
  let lineStop := source.skip (· != '\n') start
  let (destination, after) ← destination? source (min source.size (lineStop + 1)) start
  let destination := Url.normalize destination
  guard (Url.isAllowed destination)
  let stop ← if lineStop < after then some lineStop else afterTitle? source after
  let key := labelKey (source.slice 1 close)
  guard !key.isEmpty
  return (key, destination, stop)

/-- The definition that begins on a line, and the line after it. -/
def definition? (page : Page) (n : Nat) : Option ((Text × Text) × Nat) :=
  if page.isCode n || page.firstChar? n != some '[' then none
  else
    let stop := page.definitionEnd (n + 1)
    let text := (List.range' n (stop - n)).flatMap fun m =>
      let line := page.line m
      page.source.slice line.first (line.stop + 1)
    match readDefinition? text.toArray with
    | some (key, destination, pos) =>
        some ((key, destination), n + 1 + (text.take pos).count '\n')
    | none => none

end Page

end DocPress.Markdown
