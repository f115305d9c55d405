import DocPress.Failure
import DocPress.Request

/-!
# Style operations

A style operation changes how a range of a document looks, without changing its
text. The ranges are those of the document that the text will be part of.
-/

namespace DocPress

/-- A change of style. -/
inductive Style
  /-- Attributes of paragraphs. -/
  | paragraph (attributes : Attributes)
  /-- Attributes of characters. -/
  | text (attributes : Attributes)
  /-- Bullets or numbers by a preset, which is one of the attributes. -/
  | bullets (preset : Json) (attributes : Attributes)
  /-- A change under some other name, with attributes of characters. -/
  | other (kind : String) (attributes : Attributes)

namespace Style

/-- The attribute that names the preset of a list. -/
def presetName : String := "bulletPreset"

/-- The kind of a style, by name. -/
def kind : Style → String
  | .paragraph _ => "paragraph_style"
  | .text _ => "text_style"
  | .bullets _ _ => "bullets"
  | .other kind _ => kind

/-- The attributes of a style. -/
def attributes : Style → Attributes
  | .paragraph attributes => attributes
  | .text attributes => attributes
  | .bullets _ attributes => attributes
  | .other _ attributes => attributes

/-- Whether a style makes its paragraphs a list. -/
def isBullets : Style → Bool
  | .bullets _ _ => true
  | _ => false

/-- The style of a kind with the given attributes. A list needs a preset. -/
def ofKind (kind : String) (attributes : Attributes) : Except Failure Style :=
  match kind with
  | "paragraph_style" => .ok (.paragraph attributes)
  | "text_style" => .ok (.text attributes)
  | "bullets" =>
      match attributes.lookup presetName with
      | some preset => .ok (.bullets preset attributes)
      | none => .error (Fault.missingAttribute presetName).alone
  | kind => .ok (.other kind attributes)

/-- Bullets or numbers by a preset. -/
def list (preset : String) : Style :=
  .bullets (.str preset) [(presetName, .str preset)]

end Style

/-- A change of style over the positions from `start` to before `stop`. -/
structure StyleOperation where
  /-- The first position covered. -/
  start : Int
  /-- The position after the last one covered. -/
  stop : Int
  /-- The change. -/
  style : Style

namespace StyleOperation

/-- The names of the attributes that an operation sets. -/
def fields (operation : StyleOperation) : String :=
  operation.style.attributes.names

/-- The request for an operation. -/
def toRequest (operation : StyleOperation) : Request :=
  match operation.style with
  | .bullets preset _ => .bullets operation.start operation.stop preset
  | .paragraph attributes =>
      Request.styleParagraphs operation.start operation.stop attributes operation.fields
  | .text attributes | .other _ attributes =>
      Request.styleText operation.start operation.stop attributes operation.fields

/-- An operation over a range, unless the range is empty. -/
def covering (start stop : Int) (style : Style) : List StyleOperation :=
  if start < stop then [{ start, stop, style }] else []

end StyleOperation

end DocPress
