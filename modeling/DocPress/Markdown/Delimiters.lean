import DocPress.Text.Blank
import DocPress.Text.Punctuation
import DocPress.Token

/-!
# Emphasis and strikethrough

Runs of stars, low lines and tildes are read as single delimiters first, each a
text token of its own. Whether a run can open or close depends on the characters
beside it. Afterwards closers are matched with openers, and matched pairs become
container tokens: two adjacent pairs of stars or low lines together make strong
emphasis.
-/

namespace DocPress.Markdown

/-- Whether a character counts as white space beside a delimiter run. -/
def isFlankingBlank (c : Char) : Bool :=
  c == ' ' || (0x9 ≤ c.toNat && c.toNat ≤ 0xD) || c.toNat == 0xA0 || c.toNat == 0x1680 ||
    (0x2000 ≤ c.toNat && c.toNat ≤ 0x200A) || c.toNat == 0x202F || c.toNat == 0x205F ||
    c.toNat == 0x3000

/-- Whether a character counts as punctuation beside a delimiter run. -/
def isFlankingPunctuation (c : Char) : Bool :=
  isAsciiPunctuation c || isPunctuation c

/-- What a run of delimiters can do. -/
structure Flanks where
  /-- Whether the run can open a container. -/
  opens : Bool
  /-- Whether the run can close a container. -/
  closes : Bool

/-- What a run can do between two characters. Inside a word, only a run that may
split words can open or close. -/
def Flanks.between (before after : Char) (splitsWords : Bool) : Flanks :=
  let punctuationBefore := isFlankingPunctuation before
  let punctuationAfter := isFlankingPunctuation after
  let blankBefore := isFlankingBlank before
  let blankAfter := isFlankingBlank after
  let left := !blankAfter && (!punctuationAfter || blankBefore || punctuationBefore)
  let right := !blankBefore && (!punctuationBefore || blankAfter || punctuationAfter)
  { opens := left && (splitsWords || !right || punctuationBefore)
    closes := right && (splitsWords || !left || punctuationAfter) }

/-- One delimiter of a run. -/
structure Delimiter where
  /-- The character of the delimiter. -/
  mark : Char
  /-- The length of its run, or zero where lengths do not matter. -/
  length : Nat
  /-- The place of its token. -/
  token : Nat
  /-- Whether it can still open a container. -/
  opens : Bool
  /-- Whether it can still close a container. -/
  closes : Bool
  /-- The place of the delimiter that closes it. -/
  partner : Option Nat := none
  deriving Inhabited

/-! ## Matching -/

/-- What is known while closers are matched with openers, from the first
delimiter to the last. -/
structure Matching where
  /-- The delimiters. -/
  delimiters : Array Delimiter
  /-- For each delimiter passed, how many before it can be left out of a
  search. -/
  jumps : Array Nat := #[]
  /-- The first delimiter of the current run. -/
  head : Nat := 0
  /-- The token of the delimiter before, unless a new run begins. -/
  lastToken : Option Nat := none
  /-- For kinds of closers, the number of delimiters at the front among which no
  opener was found. -/
  bottoms : List ((Char × Bool × Nat) × Nat) := []

namespace Matching

/-- Whether an opener and a closer of the same character match. If one of them
can do both, the lengths of their runs must not add up to a multiple of three,
unless both are such multiples. -/
def fits (opener closer : Delimiter) : Bool :=
  !((opener.closes || closer.opens) && (opener.length + closer.length) % 3 == 0 &&
    (opener.length % 3 != 0 || closer.length % 3 != 0))

/-- The opener for a closer, searched from the place before `after` down to
`bottom`. -/
def opener? (matching : Matching) (closer : Delimiter) (bottom after : Nat) : Option Nat :=
  if _more : bottom < after then
    let place := after - 1
    let candidate := matching.delimiters.getD place default
    if candidate.mark == closer.mark && candidate.opens && candidate.partner.isNone &&
        fits candidate closer then
      some place
    else matching.opener? closer bottom (place - matching.jumps.getD place 0)
  else none
termination_by after
decreasing_by omega

/-- One step: match the delimiter at a place if it closes something. -/
def step (matching : Matching) (place : Nat) : Matching :=
  let closer := matching.delimiters.getD place default
  let sameRun := (matching.delimiters.getD matching.head default).mark == closer.mark &&
    (matching.lastToken.map (· + 1)) == some closer.token
  let matching :=
    { matching with
      jumps := matching.jumps.push 0
      head := if sameRun then matching.head else place
      lastToken := some closer.token }
  if !closer.closes then matching
  else
    let kind := (closer.mark, closer.opens, closer.length % 3)
    let bottom := (matching.bottoms.lookup kind).getD 0
    let after := matching.head - matching.jumps.getD matching.head 0
    match matching.opener? closer bottom after with
    | some found =>
        let opener := matching.delimiters.getD found default
        let skipped :=
          if 0 < found && !(matching.delimiters.getD (found - 1) default).opens then
            matching.jumps.getD (found - 1) 0 + 1
          else 0
        { matching with
          delimiters :=
            (matching.delimiters.setIfInBounds place { closer with opens := false }).setIfInBounds
              found { opener with closes := false, partner := some place }
          jumps := (matching.jumps.setIfInBounds place (place - found + skipped)).setIfInBounds
            found skipped
          lastToken := none }
    | none => { matching with bottoms := (kind, after) :: matching.bottoms }

/-- Match all delimiters. -/
def run (delimiters : Array Delimiter) : Array Delimiter :=
  ((List.range delimiters.size).foldl step { delimiters }).delimiters

end Matching

/-! ## From pairs to containers -/

/-- Turn a text token into one that opens or closes a container. -/
def markToken (tokens : Array Token) (place : Nat) (name : String) (nesting : Int) : Array Token :=
  tokens.modify place fun token => { token with name, nesting, content := [] }

/-- Whether a token is a single tilde that opens and closes nothing. -/
def isLoneTilde (token : Token) : Bool :=
  token.name == "text" && token.content == ['~']

/-- Strike through what stands between matched tildes, and note the single
tildes right before closing ones. -/
def strikePairs (delimiters : Array Delimiter) (tokens : Array Token) : Array Token × List Nat :=
  delimiters.foldl (fun (state : Array Token × List Nat) opener =>
    match opener.mark == '~', opener.partner with
    | true, some partner =>
        let stop := (delimiters.getD partner default).token
        let tokens := markToken (markToken state.1 opener.token "s_open" 1) stop "s_close" (-1)
        if 0 < stop && isLoneTilde (tokens.getD (stop - 1) default) then
          (tokens, (stop - 1) :: state.2)
        else (tokens, state.2)
    | _, _ => state) (tokens, [])

/-- The last of the closing tokens that follow a place without a gap. -/
def lastStrikeClose (tokens : Array Token) (place : Nat) : Nat :=
  if _inside : place + 1 < tokens.size then
    if tokens[place + 1].name == "s_close" then lastStrikeClose tokens (place + 1) else place
  else place
termination_by tokens.size - place

/-- Move a single tilde behind the closing tokens that follow it. -/
def moveLoneTilde (tokens : Array Token) (place : Nat) : Array Token :=
  tokens.swapIfInBounds place (lastStrikeClose tokens place)

/-- Strike through what stands between matched tildes. -/
def strikeThrough (delimiters : Array Delimiter) (tokens : Array Token) : Array Token :=
  let (tokens, lone) := strikePairs delimiters tokens
  lone.foldl moveLoneTilde tokens

/-- Whether a pair and the pair right around it make strong emphasis. -/
def isStrongPair (delimiters : Array Delimiter) (place partner : Nat) : Bool :=
  let opener := delimiters.getD place default
  let outer := delimiters.getD (place - 1) default
  0 < place && outer.partner == some (partner + 1) && outer.mark == opener.mark &&
    outer.token + 1 == opener.token &&
    (delimiters.getD (partner + 1) default).token ==
      (delimiters.getD partner default).token + 1

/-- Emphasise what stands between matched stars and low lines, from the last
opener to the first; `count` delimiters are left. -/
def emphasise (delimiters : Array Delimiter) (count : Nat) (tokens : Array Token) : Array Token :=
  match count with
  | 0 => tokens
  | place + 1 =>
      let opener := delimiters.getD place default
      match opener.mark == '*' || opener.mark == '_', opener.partner with
      | true, some partner =>
          let start := opener.token
          let stop := (delimiters.getD partner default).token
          if isStrongPair delimiters place partner then
            let tokens :=
              markToken (markToken tokens start "strong_open" 1) stop "strong_close" (-1)
            let clear (tokens : Array Token) (place : Nat) : Array Token :=
              tokens.modify place fun token => { token with content := [] }
            emphasise delimiters (place - 1) (clear (clear tokens (start - 1)) (stop + 1))
          else
            emphasise delimiters place
              (markToken (markToken tokens start "em_open" 1) stop "em_close" (-1))
      | _, _ => emphasise delimiters place tokens
termination_by count

/-- Adjacent text tokens joined into one. -/
def joinTexts : List Token → List Token
  | [] => []
  | token :: rest =>
      match joinTexts rest with
      | next :: later =>
          if token.name == "text" && next.name == "text" then
            { next with content := token.content ++ next.content } :: later
          else token :: next :: later
      | [] => [token]

/-- The tokens of a span with its delimiters matched. -/
def matchDelimiters (delimiters : Array Delimiter) (tokens : Array Token) : List Token :=
  let delimiters := Matching.run delimiters
  joinTexts (emphasise delimiters delimiters.size (strikeThrough delimiters tokens)).toList

end DocPress.Markdown
