import DocPress.Failure
import DocPress.Text.Casing

/-!
# Settings

Two settings come from the environment, each as a text that may be missing:
whether the typography filter runs when a caller does not say, and how much is
logged.
-/

namespace DocPress

/-- The values that turn the typography filter off. -/
def offWords : List Text :=
  ["0".toList, "false".toList, "no".toList, "off".toList]

/-- Whether the typography filter runs by default: unless the setting is one of
the off words, in any letter case and with blanks around it. -/
def typographyEnabled (setting : Option String) : Bool :=
  match setting with
  | none => true
  | some setting => !offWords.contains (asciiLower (trim setting.toList))

/-- The named levels of logging. -/
def logLevels : List (Text × Nat) :=
  [("CRITICAL".toList, 50), ("FATAL".toList, 50), ("ERROR".toList, 40), ("WARNING".toList, 30),
    ("WARN".toList, 30), ("INFO".toList, 20), ("DEBUG".toList, 10), ("NOTSET".toList, 0)]

/-- The level of logging that a setting names, in any letter case and with
blanks around it; the level of `INFO` when it names none. -/
def logLevel (setting : Option String) : Nat :=
  match setting with
  | none => 20
  | some setting => (logLevels.lookup (caseKey (trim setting.toList))).getD 20

/-- The link under which a document is edited. -/
def documentUrl (id : Option String) : String :=
  s!"https://docs.google.com/document/d/{shownName id}/edit"

end DocPress
