import DocPress.Markdown.Escape
import DocPress.Text.Blank

/-!
# Raw HTML

What counts as raw HTML in Markdown: tags, comments, processing instructions,
declarations and character data inside a line, and the seven ways in which a
block of HTML begins. A pattern maps a text to all the texts that can follow a
match at its start, the preferred one first.
-/

namespace DocPress.Markdown.Html

/-! ## Patterns -/

/-- A pattern: what can follow a match at the start of a text. -/
abbrev Pattern := Text → List Text

/-- One character of a class. -/
def one (accepts : Char → Bool) : Pattern
  | [] => []
  | c :: rest => if accepts c then [rest] else []

/-- Any number of characters of a class, preferably many. -/
def many (accepts : Char → Bool) : Pattern
  | [] => [[]]
  | c :: rest => if accepts c then many accepts rest ++ [c :: rest] else [c :: rest]

/-- One pattern after another. -/
def followedBy (first second : Pattern) : Pattern :=
  fun text => (first text).flatMap second

/-- One pattern or, failing that, another. -/
def orElse (first second : Pattern) : Pattern :=
  fun text => first text ++ second text

/-- A pattern or nothing, preferably the pattern. -/
def optional (pattern : Pattern) : Pattern :=
  fun text => pattern text ++ [text]

/-- A pattern up to a number of times, preferably often. -/
def upTo (count : Nat) (pattern : Pattern) : Pattern :=
  match count with
  | 0 => fun text => [text]
  | count + 1 => fun text => (pattern text).flatMap (upTo count pattern) ++ [text]

/-- A given text. -/
def word (expected : Text) : Pattern :=
  fun text => (dropLeading? expected text).toList

/-- At least one blank. -/
def blanks : Pattern :=
  followedBy (one isBlank) (many isBlank)

/-! ## Tags -/

/-- The name of an attribute. -/
def attributeName : Pattern :=
  followedBy (one fun c => isAsciiLetter c || c == '_' || c == ':')
    (many fun c => isAsciiAlphanumeric c || c == ':' || c == '.' || c == '_' || c == '-')

/-- A value between two equal quotes. -/
def quotedValue (quote : Char) : Pattern :=
  followedBy (one (· == quote)) fun text => one (· == quote) (text.dropWhile (· != quote))

/-- Whether a character can stand in a value without quotes. -/
def isBareChar (c : Char) : Bool :=
  0x20 < c.toNat && !(['"', '\'', '=', '<', '>', '\x60'].contains c)

/-- The value of an attribute. -/
def attributeValue : Pattern :=
  orElse (followedBy (one isBareChar) (many isBareChar))
    (orElse (quotedValue '\'') (quotedValue '"'))

/-- An attribute with the blanks before it. -/
def spacedAttribute : Pattern :=
  followedBy (followedBy blanks attributeName)
    (optional (followedBy (many isBlank)
      (followedBy (one (· == '=')) (followedBy (many isBlank) attributeValue))))

/-- The name of a tag. -/
def tagName : Pattern :=
  followedBy (one isAsciiLetter) (many fun c => isAsciiAlphanumeric c || c == '-')

/-- A tag that opens an element. -/
def openTag : Pattern := fun text =>
  followedBy (word ['<']) (followedBy tagName (followedBy (upTo text.length spacedAttribute)
    (followedBy (many isBlank) (followedBy (optional (one (· == '/'))) (one (· == '>')))))) text

/-- A tag that closes an element. -/
def closeTag : Pattern :=
  followedBy (word "</".toList) (followedBy tagName (followedBy (many isBlank) (one (· == '>'))))

/-- What follows the first occurrence of a text. -/
def after? (expected : Text) : Text → Option Text
  | [] => none
  | c :: rest =>
      match dropLeading? expected (c :: rest) with
      | some tail => some tail
      | none => after? expected rest

/-- What follows the end of a comment, read from after its first hyphens.
Hyphens in the comment are taken singly before another character and in pairs
otherwise, each together with the character after them. -/
def commentRest? : Text → Option Text
  | '-' :: '-' :: '>' :: rest => some rest
  | '-' :: '-' :: _ :: rest => commentRest? rest
  | ['-', '-'] => none
  | ['-'] => none
  | '-' :: _ :: rest => commentRest? rest
  | _ :: rest => commentRest? rest
  | [] => none

/-- A comment. -/
def comment : Pattern := fun text =>
  word "<!-->".toList text ++ word "<!--->".toList text ++
    (word "<!--".toList text).filterMap commentRest?

/-- A processing instruction. -/
def instruction : Pattern := fun text =>
  (word "<?".toList text).filterMap (after? "?>".toList)

/-- A declaration. -/
def declaration : Pattern := fun text =>
  (followedBy (word "<!".toList) (one isAsciiLetter) text).filterMap (after? ['>'])

/-- Character data. -/
def characterData : Pattern := fun text =>
  (word "<![CDATA[".toList text).filterMap (after? "]]>".toList)

/-- Raw HTML inside a line. -/
def inlineHtml : Pattern :=
  orElse openTag (orElse closeTag (orElse comment (orElse instruction
    (orElse declaration characterData))))

/-! ## Blocks -/

/-- What follows a name at the start of a text, without regard to the case of
letters of ASCII. -/
def dropName? : Text → Text → Option Text
  | [], text => some text
  | _ :: _, [] => none
  | n :: name, c :: rest => if c.toLower = n then dropName? name rest else none

/-- The elements whose content is kept as it is. -/
def rawElements : List Text :=
  ["script", "pre", "style", "textarea"].map String.toList

/-- The elements that stand as blocks. -/
def blockElements : List Text :=
  ["address", "article", "aside", "base", "basefont", "blockquote", "body", "caption", "center",
    "col", "colgroup", "dd", "details", "dialog", "dir", "div", "dl", "dt", "fieldset",
    "figcaption", "figure", "footer", "form", "frame", "frameset", "h1", "h2", "h3", "h4", "h5",
    "h6", "head", "header", "hr", "html", "iframe", "legend", "li", "link", "main", "menu",
    "menuitem", "nav", "noframes", "ol", "optgroup", "option", "p", "param", "search", "section",
    "summary", "table", "tbody", "td", "tfoot", "th", "thead", "title", "tr", "track",
    "ul"].map String.toList

/-- The ways in which a block of HTML begins. -/
inductive BlockStart
  | rawElement
  | comment
  | instruction
  | declaration
  | characterData
  | blockElement
  | anyTag
  deriving DecidableEq, Repr

namespace BlockStart

/-- Whether a name ends where a text begins: at a blank of ASCII, the end of the
tag or the end of the line. -/
def endsName : Text → Bool
  | [] => true
  | c :: _ => isAsciiBlank c || c == '>'

/-- Whether a name ends where a text begins, perhaps with a slash before the
end of the tag. -/
def endsNameOrTag (text : Text) : Bool :=
  endsName text || (dropLeading? "/>".toList text).isSome

/-- Whether a line begins a block in this way. -/
def begins (line : Text) : BlockStart → Bool
  | .rawElement =>
      match line with
      | '<' :: rest => rawElements.any fun name => ((dropName? name rest).map endsName).getD false
      | _ => false
  | .comment => (dropLeading? "<!--".toList line).isSome
  | .instruction => (dropLeading? "<?".toList line).isSome
  | .declaration =>
      match dropLeading? "<!".toList line with
      | some (c :: _) => isAsciiLetter c
      | _ => false
  | .characterData => (dropLeading? "<![CDATA[".toList line).isSome
  | .blockElement =>
      let rest := match line with
        | '<' :: '/' :: rest => rest
        | '<' :: rest => rest
        | _ => []
      line.head? == some '<' &&
        blockElements.any fun name => ((dropName? name rest).map endsNameOrTag).getD false
  | .anyTag => (orElse openTag closeTag line).any fun rest => rest.all isBlank

/-- Whether a line closes a raw element somewhere. -/
def closesRawElement : Text → Bool
  | [] => false
  | c :: rest =>
      (match dropLeading? "</".toList (c :: rest) with
        | some name => rawElements.any fun element =>
            ((dropName? element name).map (·.head? == some '>')).getD false
        | none => false) || closesRawElement rest

/-- Whether a line ends a block that began in this way. -/
def ends (line : Text) : BlockStart → Bool
  | .rawElement => closesRawElement line
  | .comment => occursIn "-->".toList line
  | .instruction => occursIn "?>".toList line
  | .declaration => occursIn ['>'] line
  | .characterData => occursIn "]]>".toList line
  | .blockElement | .anyTag => line.isEmpty

/-- Whether a block that begins in this way can follow a paragraph without a
blank line. -/
def interrupts : BlockStart → Bool
  | .anyTag => false
  | _ => true

/-- The way in which a line begins a block of HTML, if it begins one. -/
def of? (line : Text) : Option BlockStart :=
  [rawElement, comment, instruction, declaration, characterData, blockElement, anyTag].find?
    (begins line)

end BlockStart

end DocPress.Markdown.Html
