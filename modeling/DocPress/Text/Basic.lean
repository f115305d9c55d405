/-!
# Text

Text is a list of characters. This module has the operations that do not
depend on a class of characters: the length in UTF-16 code units, which is how
a document counts its positions, splitting and joining at a separator, and
replacing a pattern.
-/

namespace DocPress

/-- A text: its characters in order. -/
abbrev Text := List Char

/-- The number of UTF-16 code units of one character. -/
def charUnits (c : Char) : Nat :=
  if c.toNat < 0x10000 then 1 else 2

/-- The length of a text in UTF-16 code units. -/
def units : Text → Nat
  | [] => 0
  | c :: rest => charUnits c + units rest

@[simp]
theorem units_append (first second : Text) :
    units (first ++ second) = units first + units second := by
  induction first with
  | nil => simp [units]
  | cons c rest ih => simp [units, ih, Nat.add_assoc]

/-- The pieces of a text between the occurrences of a separator. There is
always at least one piece. -/
def splitAt (separator : Char) : Text → List Text
  | [] => [[]]
  | c :: rest =>
      if c = separator then [] :: splitAt separator rest
      else
        match splitAt separator rest with
        | [] => [[c]]
        | piece :: pieces => (c :: piece) :: pieces

/-- Pieces joined by a separator text. -/
def joinWith (separator : Text) : List Text → Text
  | [] => []
  | [piece] => piece
  | piece :: pieces => piece ++ separator ++ joinWith separator pieces

/-- The lines of a text, without their line ends. -/
def textLines (text : Text) : List Text :=
  splitAt '\n' text

/-- Lines joined by line ends. -/
def joinLines (lines : List Text) : Text :=
  joinWith ['\n'] lines

/-- What follows a leading pattern, if the text begins with it. -/
def dropLeading? : Text → Text → Option Text
  | [], text => some text
  | _ :: _, [] => none
  | p :: pattern, c :: rest => if p = c then dropLeading? pattern rest else none

theorem dropLeading?_length {pattern text rest : Text}
    (h : dropLeading? pattern text = some rest) :
    rest.length + pattern.length = text.length := by
  induction pattern generalizing text with
  | nil => simp_all [dropLeading?]
  | cons p pattern ih =>
      cases text with
      | nil => simp [dropLeading?] at h
      | cons c tail =>
          simp only [dropLeading?] at h
          split at h
          · have := ih h
            simp only [List.length_cons]
            omega
          · simp at h

/-- Every occurrence of a nonempty pattern replaced, from left to right and
without overlap. An empty pattern occurs nowhere. -/
def replaceAll (pattern replacement : Text) : Text → Text
  | [] => []
  | c :: rest =>
      match _found : dropLeading? pattern (c :: rest) with
      | some tail =>
          if pattern.length = 0 then c :: replaceAll pattern replacement rest
          else replacement ++ replaceAll pattern replacement tail
      | none => c :: replaceAll pattern replacement rest
termination_by text => text.length
decreasing_by
  all_goals simp_wf
  have := dropLeading?_length _found
  simp only [List.length_cons] at this
  omega

/-- Whether a pattern occurs in a text. -/
def occursIn (pattern : Text) : Text → Bool
  | [] => pattern.isEmpty
  | c :: rest => (dropLeading? pattern (c :: rest)).isSome || occursIn pattern rest

/-- A text without the run of a given character at its end. -/
def dropTrailingRun (c : Char) (text : Text) : Text :=
  (text.reverse.dropWhile (· == c)).reverse

/-- A text without one given character at its end, if it is there. -/
def dropTrailingOnce (c : Char) : Text → Text
  | [] => []
  | [last] => if last = c then [] else [last]
  | first :: rest => first :: dropTrailingOnce c rest

/-- Line ends in one form: a carriage return, alone or before a line feed,
becomes a line feed. -/
def unifyLineEnds : Text → Text
  | [] => []
  | '\r' :: '\n' :: rest => '\n' :: unifyLineEnds rest
  | '\r' :: rest => '\n' :: unifyLineEnds rest
  | c :: rest => c :: unifyLineEnds rest

/-- The decimal digits of a natural number. -/
def natText (n : Nat) : Text :=
  (Nat.repr n).toList

/-- An integer in decimal, with a minus sign when it is negative. -/
def intText (n : Int) : Text :=
  match n with
  | .ofNat n => natText n
  | .negSucc n => '-' :: natText (n + 1)

end DocPress
