import DocPress.Markdown.Html
import DocPress.Markdown.Link
import DocPress.Markdown.Url
import DocPress.Markdown.Delimiters

/-!
# What begins inside a line

This module recognises the item of inline content that begins at a position of
a source: a run of text, a code span, a link, and so on. To find where the label
of a link ends, the items in it have to be skipped; what was skipped once is
remembered. The levels left bound how deep labels can be nested.
-/

namespace DocPress.Markdown

/-- What is remembered while one source is read: for each position, where the
item that begins there ends. -/
abbrev Memory := Array (Option Nat)

/-- The memory before a source is read. -/
def Memory.fresh (source : Source) : Memory :=
  Array.replicate (source.size + 1) none

/-- An item of inline content. -/
inductive Item
  /-- Text as it stands. -/
  | text (content : Text)
  /-- An escaped character or a character reference. -/
  | special (content : Text)
  /-- The end of a line. -/
  | lineEnd
  /-- The end of a line after a backslash. -/
  | hardBreak
  /-- A code span. -/
  | code (content : Text)
  /-- A run of delimiters. -/
  | delimiters (mark : Char) (length : Nat) (flanks : Flanks)
  /-- A link whose label stands between two positions. -/
  | link (destination : Text) (start stop : Nat)
  /-- An image whose label stands between two positions. -/
  | image (start stop : Nat)
  /-- A destination in angle brackets. -/
  | autolink (destination shown : Text)
  /-- Raw HTML. -/
  | html (content : Text)

/-- The item that begins at a position, and where it ends. -/
abbrev Found := Option (Item × Nat)

/-- Skip the item that begins at a position, before a given end. -/
abbrev Skip := Memory → Nat → Nat → Nat × Memory

/-- Whether an item of its own can begin with a character. -/
def beginsItem (c : Char) : Bool :=
  "\n!#$%&*+-:<=>@[\\]^_\x60\x7b\x7d~".toList.contains c

/-! ## Items without labels -/

/-- A run of text in which no other item begins. -/
def textItem? (source : Source) (stop pos : Nat) : Found :=
  let after := min stop (source.skip (!beginsItem ·) pos)
  if pos < after then some (.text (source.slice pos after), after) else none

/-- The first position from the given one to `stop` that holds no blank that
indents. -/
def skipIndent (source : Source) (stop pos : Nat) : Nat :=
  min stop (source.skip isIndent pos)

/-- A line end, with the blanks that begin the next line. -/
def lineEndItem (source : Source) (stop pos : Nat) : Found :=
  some (.lineEnd, skipIndent source stop (pos + 1))

/-- A backslash with the character that it escapes. -/
def escapeItem? (source : Source) (stop pos : Nat) : Found :=
  if stop ≤ pos + 1 then none
  else
    match source[pos + 1]? with
    | some '\n' => some (.hardBreak, skipIndent source stop (pos + 2))
    | some c => some (.special (if isAsciiPunctuation c then [c] else ['\\', c]), pos + 2)
    | none => none

/-- The content of a code span: line ends are spaces, and one space is taken off
both ends if there is more than spaces. -/
def codeContent (content : Text) : Text :=
  let content := content.map fun c => if c = '\n' then ' ' else c
  if content.head? == some ' ' && content.getLast? == some ' ' && content.any (· != ' ') then
    (content.drop 1).dropLast
  else content

/-- The first run of backticks of the given length from a position on, and where
it ends. -/
def closingBackticks? (source : Source) (stop length pos : Nat) : Option (Nat × Nat) :=
  let start := source.skip (· != '\x60') pos
  if _inside : start < stop ∧ pos ≤ start then
    let after := min stop (source.skip (· == '\x60') start)
    if after - start = length then some (start, after)
    else if _forward : pos < after then closingBackticks? source stop length after
    else none
  else none
termination_by stop - pos
decreasing_by exact Nat.sub_lt_sub_left (Nat.lt_of_le_of_lt _inside.2 _inside.1) _forward

/-- A code span up to the next run of backticks as long as the one at the
position, or that run as text if there is no other. -/
def backtickItem (source : Source) (stop pos : Nat) : Found :=
  let after := min stop (source.skip (· == '\x60') pos)
  match closingBackticks? source stop (after - pos) after with
  | some (start, next) => some (.code (codeContent (source.slice after start)), next)
  | none => some (.text (source.slice pos after), after)

/-- The run of delimiters at a position. -/
def delimiterItem (source : Source) (stop pos : Nat) (mark : Char) : Found :=
  let after := min stop (source.skip (· == mark) pos)
  let charBefore := if pos = 0 then ' ' else (source[pos - 1]?).getD ' '
  let charAfter := if after < stop then (source[after]?).getD ' ' else ' '
  let length := after - pos
  if mark == '~' && length < 2 then none
  else some (.delimiters mark length (Flanks.between charBefore charAfter (mark != '_')), after)

/-- Whether a text is an address with a scheme: the scheme has two to thirty-two
characters, and what follows neither blanks nor angle brackets. -/
def isAddress (text : Text) : Bool :=
  let scheme := text.takeWhile (· != ':')
  let rest := dropTrailingOnce '\n' (text.drop (scheme.length + 1))
  scheme.length < text.length && 2 ≤ scheme.length && scheme.length ≤ 32 &&
    (scheme.head?.map isAsciiLetter).getD false && scheme.all Url.isSchemeChar &&
    rest.all fun c => 0x20 < c.toNat && c != '<' && c != '>'

/-- Whether a text is a part of a mail domain. -/
def isDomainPart (part : Text) : Bool :=
  1 ≤ part.length && part.length ≤ 63 &&
    part.all (fun c => isAsciiAlphanumeric c || c == '-') &&
    part.head? != some '-' && part.getLast? != some '-'

/-- Whether a text is a mail address. -/
def isMailAddress (text : Text) : Bool :=
  let name := text.takeWhile (· != '@')
  let domain := dropTrailingOnce '\n' (text.drop (name.length + 1))
  !name.isEmpty && name.length < text.length &&
    name.all (fun c =>
      isAsciiAlphanumeric c || ".!#$%&'*+/=?^_\x60\x7b|\x7d~-".toList.contains c) &&
    (splitAt '.' domain).all isDomainPart

/-- A destination in angle brackets. -/
def autolinkItem? (source : Source) (stop pos : Nat) : Found :=
  let close := source.skip (fun c => c != '<' && c != '>') (pos + 1)
  if stop ≤ close || source[close]? != some '>' then none
  else
    let text := source.slice (pos + 1) close
    let target? :=
      if isAddress text then some text
      else if isMailAddress text then some ("mailto:".toList ++ text)
      else none
    match target? with
    | some target =>
        let destination := Url.normalize target
        if Url.isAllowed destination then some (.autolink destination (Url.shown text), close + 1)
        else none
    | none => none

/-- Raw HTML. -/
def htmlItem? (source : Source) (stop pos : Nat) : Found :=
  if stop ≤ pos + 2 then none
  else
    match source[pos + 1]? with
    | some c =>
        if c == '!' || c == '?' || c == '/' || isAsciiLetter c then
          match Html.inlineHtml (source.slice pos source.size) with
          | rest :: _ =>
              let after := source.size - rest.length
              some (.html (source.slice pos after), after)
          | [] => none
        else none
    | none => none

/-- A character reference. -/
def referenceItem? (source : Source) (stop pos : Nat) : Found :=
  if stop ≤ pos + 1 then none
  else (reference? (source.slice pos source.size)).map fun (content, length) =>
    (.special content, pos + length)

/-! ## Links and images -/

/-- The closing bracket of a label, searched from a position inside it. Items in
the label are skipped as a whole; an opening bracket that begins none has to be
closed too, and `depth` counts those brackets. In the label of a link, no item
may begin with a bracket. -/
def labelEnd? (skip : Skip) (source : Source) (ofLink : Bool) (stop depth pos : Nat)
    (memory : Memory) : Option Nat × Memory :=
  if _inside : pos < stop then
    let c := source[pos]?
    if c = some ']' && depth ≤ 1 then (some pos, memory)
    else
      let depth := if c = some ']' then depth - 1 else depth
      let (next, memory) := skip memory stop pos
      if _forward : pos < next then
        if c = some '[' then
          if next = pos + 1 then labelEnd? skip source ofLink stop (depth + 1) next memory
          else if ofLink then (none, memory)
          else labelEnd? skip source ofLink stop depth next memory
        else labelEnd? skip source ofLink stop depth next memory
      else (none, memory)
  else (none, memory)
termination_by stop - pos

/-- The destination of a link given in parentheses, read from after the opening
one: the destination, and where the closing one should stand. A destination that
is not allowed counts as missing. -/
def inlineTarget (source : Source) (stop pos : Nat) : Text × Nat :=
  match destination? source stop pos with
  | some (text, after) =>
      let destination := Url.normalize text
      if Url.isAllowed destination then (destination, after) else ([], pos)
  | none => ([], pos)

/-- The position after a title that stands after a gap, and after the gap that
follows it; without such a title, the position after the first gap. -/
def afterTitle (source : Source) (stop pos : Nat) : Nat :=
  let start := skipGap source stop pos
  match titleAt source stop start with
  | .found _ next => if start < stop && start != pos then skipGap source stop next else start
  | _ => start

/-- The destination of a label that stands after the label's closing bracket in
brackets of its own, or else of the label itself; and the position after it. -/
def definedTarget? (skip : Skip) (definitions : Definitions) (source : Source)
    (stop start close pos : Nat) (memory : Memory) : Option (Text × Nat) × Memory :=
  if definitions.isEmpty then (none, memory)
  else
    let (second, memory) :=
      if pos < stop && source[pos]? = some '[' then
        labelEnd? skip source false stop 1 (pos + 1) memory
      else (none, memory)
    let (label, next) :=
      match second with
      | some last => (source.slice (pos + 1) last, last + 1)
      | none => ([], close + 1)
    let label := if label.isEmpty then source.slice start close else label
    ((definitions.lookup (labelKey label)).map fun destination => (destination, next), memory)

/-- A link. If parentheses after the label hold no destination, the label may
still be defined. -/
def linkItem? (skip : Skip) (definitions : Definitions) (source : Source) (stop pos : Nat)
    (memory : Memory) : Found × Memory :=
  let start := pos + 1
  match labelEnd? skip source true stop 1 start memory with
  | (none, memory) => (none, memory)
  | (some close, memory) =>
      let defined (pos : Nat) : Found × Memory :=
        let (target, memory) := definedTarget? skip definitions source stop start close pos memory
        (target.map fun (destination, next) => (.link destination start close, next), memory)
      if close + 1 < stop && source[close + 1]? = some '(' then
        let first := skipGap source stop (close + 2)
        if stop ≤ first then (none, memory)
        else
          let (destination, after) := inlineTarget source stop first
          let last := afterTitle source stop after
          if last < stop && source[last]? = some ')' then
            (some (.link destination start close, last + 1), memory)
          else defined (last + 1)
      else defined (close + 1)

/-- An image. -/
def imageItem? (skip : Skip) (definitions : Definitions) (source : Source) (stop pos : Nat)
    (memory : Memory) : Found × Memory :=
  if stop ≤ pos + 1 || source[pos + 1]? != some '[' then (none, memory)
  else
    let start := pos + 2
    match labelEnd? skip source false stop 1 start memory with
    | (none, memory) => (none, memory)
    | (some close, memory) =>
        if close + 1 < stop && source[close + 1]? = some '(' then
          let first := skipGap source stop (close + 2)
          if stop ≤ first then (none, memory)
          else
            let (_, after) := inlineTarget source stop first
            let last := afterTitle source stop after
            if last < stop && source[last]? = some ')' then
              (some (.image start close, last + 1), memory)
            else (none, memory)
        else
          let (target, memory) :=
            definedTarget? skip definitions source stop start close (close + 1) memory
          (target.map fun (_, next) => (.image start close, next), memory)

/-! ## All items -/

/-- The item that begins at a position. -/
def itemAt (skip : Skip) (definitions : Definitions) (source : Source) (stop pos : Nat)
    (memory : Memory) : Found × Memory :=
  match source[pos]? with
  | none => (none, memory)
  | some c =>
      match c with
      | '\n' => (lineEndItem source stop pos, memory)
      | '\\' => (escapeItem? source stop pos, memory)
      | '\x60' => (backtickItem source stop pos, memory)
      | '~' | '*' | '_' => (delimiterItem source stop pos c, memory)
      | '[' => linkItem? skip definitions source stop pos memory
      | '!' => imageItem? skip definitions source stop pos memory
      | '<' =>
          match autolinkItem? source stop pos with
          | some found => (some found, memory)
          | none => (htmlItem? source stop pos, memory)
      | '&' => (referenceItem? source stop pos, memory)
      | _ => (textItem? source stop pos, memory)

/-- Skip the item that begins at a position. Delimiters are skipped one by one,
like characters that begin no item. With no levels left, the rest is skipped. -/
def skipItem (definitions : Definitions) (source : Source) (levels : Nat) : Skip :=
  fun memory stop pos =>
    match memory.getD pos none with
    | some known => (known, memory)
    | none =>
        let (next, memory) :=
          match levels with
          | 0 => (stop + 1, memory)
          | levels + 1 =>
              let skip := skipItem definitions source levels
              match itemAt skip definitions source stop pos memory with
              | (some (.delimiters .., _), memory) => (pos + 1, memory)
              | (some (_, next), memory) => (next, memory)
              | (none, memory) => (pos + 1, memory)
        (next, memory.setIfInBounds pos (some next))

end DocPress.Markdown
