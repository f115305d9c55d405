import DocPress.Compilation.Basic
import DocPress.Markdown.Reader
import DocPress.Node.OfTokens
import DocPress.Settings
import DocPress.Typography

/-!
# From Markdown to compilations

Markdown is filtered, if wanted, read, and compiled for a position.
-/

namespace DocPress

/-- The blocks of a Markdown source. -/
def Block.ofMarkdown (source : Text) : List Block :=
  Block.ofTokens (Markdown.tokens source)

/-- Whether the typography filter runs: the choice of the call counts, then the
choice made for all calls, then the setting. -/
def typographyChoice (call all : Option Bool) (setting : Option String) : Bool :=
  (call <|> all).getD (typographyEnabled setting)

/-- Compile Markdown for a position, with or without the typography filter. -/
def compileMarkdown (source : Text) (start : Int) (typography : Bool) : Compilation :=
  compile (Block.ofMarkdown (if typography then Typography.filter source else source)) start

end DocPress
