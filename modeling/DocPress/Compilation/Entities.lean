import DocPress.Text.Basic

/-!
# Entities in text

The few character entities that can be left in the text of a node are decoded
one after the other, each throughout the text. An ampersand is decoded before
the entities listed after it, so it can begin one of those.
-/

namespace DocPress

/-- The entities that are decoded, in order, with their characters. -/
def textEntities : List (Text × Text) :=
  [("&#39;".toList, ['\'']), ("&#x27;".toList, ['\'']), ("&quot;".toList, ['"']),
    ("&amp;".toList, ['&']), ("&lt;".toList, ['<']), ("&gt;".toList, ['>']),
    ("&nbsp;".toList, [' '])]

/-- A text with its entities decoded. -/
def decodeEntities (text : Text) : Text :=
  textEntities.foldl (fun text entity => replaceAll entity.1 entity.2 text) text

end DocPress
