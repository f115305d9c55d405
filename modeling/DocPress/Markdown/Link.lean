import DocPress.Markdown.Escape
import DocPress.Markdown.Source
import DocPress.Text.Blank
import DocPress.Text.Casing

/-!
# Parts of links

A link has a destination and perhaps a title; both can also stand in a
definition at another place, which is found by its label. Labels are compared
without regard to letter case and to the number of spacing characters.
-/

namespace DocPress.Markdown

/-- A text with every run of spacing characters made one space. `spaced` says
whether the character before was spacing. -/
def collapseSpacing (spaced : Bool) : Text → Text
  | [] => []
  | c :: rest =>
      if isSpacing c then
        if spaced then collapseSpacing true rest else ' ' :: collapseSpacing true rest
      else c :: collapseSpacing false rest

/-- The form in which labels are compared. -/
def labelKey (label : Text) : Text :=
  caseKey (collapseSpacing false (trimSpacing label))

/-- Link definitions: label keys with their destinations. The first definition
of a label counts. -/
abbrev Definitions := List (Text × Text)

/-! ## Destinations -/

/-- The end of a destination in angle brackets, read from after the opening
one. It may hold no line end and no second opening bracket. -/
def bracketEnd? (source : Source) (stop pos : Nat) : Option Nat :=
  if _inside : pos < stop then
    match source[pos]? with
    | some '>' => some pos
    | some '\n' | some '<' | none => none
    | some '\\' =>
        if pos + 1 < stop then bracketEnd? source stop (pos + 2)
        else bracketEnd? source stop (pos + 1)
    | some _ => bracketEnd? source stop (pos + 1)
  else none
termination_by stop - pos

/-- The deepest nesting of parentheses in a destination. -/
def maxParentheses : Nat := 32

/-- The end of a destination without brackets: a blank, a control character or
a parenthesis that closes none in it. Parentheses in it must match; `depth`
counts those still open. -/
def bareEnd? (source : Source) (stop depth pos : Nat) : Option Nat :=
  if _inside : pos < stop then
    match source[pos]? with
    | some c =>
        if c.toNat ≤ 0x20 || c.toNat = 0x7F then if depth = 0 then some pos else none
        else if c = '\\' && pos + 1 < stop then
          if source[pos + 1]? = some ' ' then if depth = 0 then some pos else none
          else bareEnd? source stop depth (pos + 2)
        else if c = '(' then
          if depth < maxParentheses then bareEnd? source stop (depth + 1) (pos + 1) else none
        else if c = ')' then
          if depth = 0 then some pos else bareEnd? source stop (depth - 1) (pos + 1)
        else bareEnd? source stop depth (pos + 1)
    | none => if depth = 0 then some pos else none
  else if depth = 0 then some pos
  else none
termination_by stop - pos

/-- The destination at a position, and the position after it. -/
def destination? (source : Source) (stop pos : Nat) : Option (Text × Nat) :=
  if source[pos]? = some '<' then
    (bracketEnd? source stop (pos + 1)).map fun after =>
      (unescape (source.slice (pos + 1) after), after + 1)
  else
    match bareEnd? source stop 0 pos with
    | some after => if after = pos then none else some (unescape (source.slice pos after), after)
    | none => none

/-! ## Titles -/

/-- What stands where a title can stand. -/
inductive TitleScan
  /-- No title, or one that is not allowed. -/
  | absent
  /-- A title without its end. -/
  | unfinished
  /-- A title, and the position after it. -/
  | found (title : Text) (next : Nat)

/-- The end of a title by its closing mark. A title in parentheses holds no
opening parenthesis. -/
def titleEnd (source : Source) (stop : Nat) (close : Char) (start pos : Nat) : TitleScan :=
  if _inside : pos < stop then
    match source[pos]? with
    | some c =>
        if c = close then .found (unescape (source.slice start pos)) (pos + 1)
        else if c = '(' && close = ')' then .absent
        else if c = '\\' && pos + 1 < stop then titleEnd source stop close start (pos + 2)
        else titleEnd source stop close start (pos + 1)
    | none => .unfinished
  else .unfinished
termination_by stop - pos

/-- The title at a position. -/
def titleAt (source : Source) (stop pos : Nat) : TitleScan :=
  if pos < stop then
    match source[pos]? with
    | some '"' => titleEnd source stop '"' (pos + 1) (pos + 1)
    | some '\'' => titleEnd source stop '\'' (pos + 1) (pos + 1)
    | some '(' => titleEnd source stop ')' (pos + 1) (pos + 1)
    | _ => .absent
  else .absent

/-- The first position before `stop` that holds neither a blank that indents
nor a line end. -/
def skipGap (source : Source) (stop pos : Nat) : Nat :=
  min stop (source.skip (fun c => isIndent c || c == '\n') pos)

end DocPress.Markdown
