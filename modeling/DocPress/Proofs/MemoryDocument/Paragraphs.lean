import DocPress.MemoryDocument.Edit
import DocPress.Proofs.Lines

/-!
# Paragraphs of a document in memory

A text whose last character is a line end is cut into paragraphs, one for each line,
and nothing is lost. Splitting a document anew therefore changes only paragraphs that
hold more than one line, and a document of single paragraphs is left as it is.
-/

namespace DocPress.MemoryDocument

/-- Whether a text is one line with its line end. -/
def IsParagraph (text : Text) : Prop :=
  ∃ line, text = line ++ ['\n'] ∧ '\n' ∉ line

/-- Whether a text is a number of lines, each with its line end. -/
inductive IsLines : Text → Prop
  | nil : IsLines []
  | cons {line rest : Text} (hline : '\n' ∉ line) (hrest : IsLines rest) :
      IsLines (line ++ '\n' :: rest)

/-- The paragraphs of a text, one for each line with its line end. -/
def paragraphs (text : Text) : List Element :=
  (textLines text).dropLast.map fun line => .paragraph (line ++ ['\n'])

/-- The text of the paragraphs among elements. -/
def textOf (elements : List Element) : Text :=
  elements.flatMap fun
    | .paragraph text => text
    | .table _ => []

/-- The cells of the tables among elements. -/
def tablesOf (elements : List Element) : List (List (List Text)) :=
  elements.filterMap fun
    | .paragraph _ => none
    | .table cells => some cells

section Views

@[simp]
theorem textOf_nil : textOf [] = [] := rfl

@[simp]
theorem textOf_paragraph (text : Text) (rest : List Element) :
    textOf (.paragraph text :: rest) = text ++ textOf rest := rfl

@[simp]
theorem textOf_table (cells : List (List Text)) (rest : List Element) :
    textOf (.table cells :: rest) = textOf rest := rfl

@[simp]
theorem textOf_append (first second : List Element) :
    textOf (first ++ second) = textOf first ++ textOf second :=
  List.flatMap_append

@[simp]
theorem tablesOf_nil : tablesOf [] = [] := rfl

@[simp]
theorem tablesOf_paragraph (text : Text) (rest : List Element) :
    tablesOf (.paragraph text :: rest) = tablesOf rest := rfl

@[simp]
theorem tablesOf_table (cells : List (List Text)) (rest : List Element) :
    tablesOf (.table cells :: rest) = cells :: tablesOf rest := rfl

@[simp]
theorem tablesOf_append (first second : List Element) :
    tablesOf (first ++ second) = tablesOf first ++ tablesOf second :=
  List.filterMap_append

@[simp]
theorem elementsSize_nil : elementsSize [] = 0 := rfl

@[simp]
theorem elementsSize_cons (element : Element) (rest : List Element) :
    elementsSize (element :: rest) = element.size + elementsSize rest := rfl

@[simp]
theorem elementsSize_append (first second : List Element) :
    elementsSize (first ++ second) = elementsSize first + elementsSize second := by
  induction first with
  | nil => simp
  | cons element rest ih => simp [ih, Nat.add_assoc]

theorem stopOf_eq (elements : List Element) : stopOf elements = 1 + elementsSize elements := rfl

end Views

/-! ## Lines with their line ends -/

theorem IsParagraph.isLines {text : Text} (hparagraph : IsParagraph text) : IsLines text := by
  obtain ⟨line, rfl, hline⟩ := hparagraph
  exact .cons hline .nil

theorem blank_isParagraph {text : Text} (hmem : .paragraph text ∈ blank) : IsParagraph text := by
  obtain rfl := Element.paragraph.inj (List.mem_singleton.mp hmem)
  exact ⟨[], rfl, List.not_mem_nil⟩

theorem IsLines.append {first second : Text} (hfirst : IsLines first) (hsecond : IsLines second) :
    IsLines (first ++ second) := by
  induction hfirst with
  | nil => exact hsecond
  | cons hline _ ih =>
      rw [List.append_assoc, List.cons_append]
      exact .cons hline ih

/-- A text that ends with a line end is a number of lines. -/
theorem isLines_append_lineEnd (text : Text) : IsLines (text ++ ['\n']) := by
  have hsplit := joinLines_textLines text
  have hlines : ∀ line ∈ textLines text, '\n' ∉ line :=
    fun _ hmem => lineEnd_notMem_of_mem_textLines hmem
  -- The line end at the end belongs to the last of the lines.
  rw [← hsplit]
  generalize textLines text = lines at hlines
  induction lines with
  | nil => exact @IsLines.cons [] [] List.not_mem_nil .nil
  | cons line rest ih =>
      have hrest := ih fun other hmem => hlines other (List.mem_cons_of_mem _ hmem)
      cases rest with
      | nil => exact .cons (hlines line List.mem_cons_self) .nil
      | cons next others =>
          have hjoin : joinLines (line :: next :: others) =
              line ++ '\n' :: joinLines (next :: others) := by
            simp [joinLines, joinWith]
          rw [hjoin, List.append_assoc, List.cons_append]
          exact .cons (hlines line List.mem_cons_self) hrest

/-- The last character of lines, if there are any, is a line end. -/
theorem IsLines.eq_nil_or_endsLine {text : Text} (hlines : IsLines text) :
    text = [] ∨ ∃ line, text = line ++ ['\n'] := by
  induction hlines with
  | nil => exact .inl rfl
  | @cons line rest _ _ ih =>
      rcases ih with rfl | ⟨others, rfl⟩
      · exact .inr ⟨line, rfl⟩
      · exact .inr ⟨line ++ '\n' :: others, by simp⟩

@[simp]
theorem paragraphs_nil : paragraphs [] = [] := rfl

theorem paragraphs_line_append {line : Text} (hline : '\n' ∉ line) (rest : Text) :
    paragraphs (line ++ '\n' :: rest) = .paragraph (line ++ ['\n']) :: paragraphs rest := by
  rw [paragraphs, textLines_append_lineEnd, textLines_of_notMem hline, List.singleton_append,
    List.dropLast_cons_of_ne_nil (textLines_ne_nil rest), List.map_cons]
  rfl

theorem paragraphs_append {first : Text} (hfirst : IsLines first) (second : Text) :
    paragraphs (first ++ second) = paragraphs first ++ paragraphs second := by
  induction hfirst with
  | nil => rfl
  | @cons line rest hline _ ih =>
      rw [List.append_assoc, List.cons_append, paragraphs_line_append hline,
        paragraphs_line_append hline, ih, List.cons_append]

theorem IsParagraph.paragraphs_eq {text : Text} (hparagraph : IsParagraph text) :
    paragraphs text = [.paragraph text] := by
  obtain ⟨line, rfl, hline⟩ := hparagraph
  rw [paragraphs_line_append hline, paragraphs_nil]

/-- Lines cut into paragraphs keep all of their text. -/
theorem IsLines.textOf_paragraphs {text : Text} (hlines : IsLines text) :
    textOf (paragraphs text) = text := by
  induction hlines with
  | nil => rfl
  | cons hline _ ih => simp [paragraphs_line_append hline, ih]

@[simp]
theorem tablesOf_paragraphs (text : Text) : tablesOf (paragraphs text) = [] := by
  rw [tablesOf, paragraphs, List.filterMap_map]
  exact List.filterMap_eq_nil_iff.mpr fun _ _ => rfl

/-- Paragraphs take as many positions as their text has characters. -/
theorem IsLines.elementsSize_paragraphs {text : Text} (hlines : IsLines text) :
    elementsSize (paragraphs text) = text.length := by
  induction hlines with
  | nil => rfl
  | cons hline _ ih =>
      simp only [paragraphs_line_append hline, elementsSize_cons, Element.size, ih,
        List.length_append, List.length_cons, List.length_nil]
      omega

/-- The paragraph that holds a place of a text, with the paragraphs around it. -/
theorem IsLines.exists_paragraph_at {text : Text} (hlines : IsLines text) {place : Nat}
    (hplace : place < text.length) :
    ∃ first line last offset, text = first ++ (line ++ last) ∧ IsLines first ∧
      IsParagraph line ∧ IsLines last ∧ place = first.length + offset ∧ offset < line.length := by
  induction hlines generalizing place with
  | nil => exact absurd hplace (Nat.not_lt_zero _)
  | @cons line rest hline hrest ih =>
      -- The place is in the first line or, counted from the line after it, in the rest.
      by_cases hhere : place < line.length + 1
      · exact ⟨[], line ++ ['\n'], rest, place, by simp, .nil, ⟨line, rfl, hline⟩, hrest,
          by simp, by simpa using hhere⟩
      · have hlater : place - (line.length + 1) < rest.length := by
          simp only [List.length_append, List.length_cons] at hplace
          omega
        obtain ⟨first, middle, last, offset, rfl, hfirst, hmiddle, hlast, hoffset, hlt⟩ := ih hlater
        refine ⟨line ++ '\n' :: first, middle, last, offset, by simp, .cons hline hfirst,
          hmiddle, hlast, ?_, hlt⟩
        simp only [List.length_append, List.length_cons]
        omega

/-- What stands before a place of a paragraph holds no line end. -/
theorem IsParagraph.take {line : Text} (hline : IsParagraph line) {offset : Nat}
    (hoffset : offset < line.length) : IsParagraph (line.take offset ++ ['\n']) := by
  obtain ⟨body, rfl, hbody⟩ := hline
  refine ⟨_, rfl, ?_⟩
  rw [List.take_append_of_le_length (by simpa using Nat.lt_succ_iff.mp (by simpa using hoffset))]
  exact fun hmem => hbody (List.mem_of_mem_take hmem)

/-- What stands from a place of a paragraph on is a paragraph, since its line end is kept. -/
theorem IsParagraph.drop {line : Text} (hline : IsParagraph line) {offset : Nat}
    (hoffset : offset < line.length) : IsParagraph (line.drop offset) := by
  obtain ⟨body, rfl, hbody⟩ := hline
  refine ⟨body.drop offset, ?_, fun hmem => hbody (List.mem_of_mem_drop hmem)⟩
  rw [List.drop_append_of_le_length (by simpa using Nat.lt_succ_iff.mp (by simpa using hoffset))]

/-- What stands from a place of some lines on is a number of lines again. -/
theorem IsLines.drop {text : Text} (hlines : IsLines text) {place : Nat}
    (hplace : place < text.length) : IsLines (text.drop place) := by
  obtain ⟨first, line, last, offset, rfl, _, hline, hlast, rfl, hoffset⟩ :=
    hlines.exists_paragraph_at hplace
  rw [List.drop_length_add_append, List.drop_append_of_le_length (Nat.le_of_lt hoffset)]
  exact (hline.drop hoffset).isLines.append hlast

/-! ## Splitting anew -/

/-- Lines with their line ends are never refused. -/
theorem IsLines.paragraphsOf_eq {text : Text} (hlines : IsLines text) :
    paragraphsOf text = .ok (paragraphs text) := by
  have hlast : (textLines text).getLastD [] = [] := by
    induction hlines with
    | nil => rfl
    | cons _ _ ih =>
        rw [textLines_append_lineEnd, List.getLastD_eq_getLast?, List.getLast?_append,
          Option.or_of_isSome (List.getLast?_isSome.mpr (textLines_ne_nil _)),
          ← List.getLastD_eq_getLast?, ih]
  unfold paragraphsOf
  split
  next hempty =>
    rw [List.isEmpty_iff.mp hempty]
    rfl
  next => exact if_pos hlast

/-- An element as splitting anew leaves it: a paragraph becomes the paragraphs of its
lines. -/
def Element.split : Element → List Element
  | .paragraph text => paragraphs text
  | .table cells => [.table cells]

/-- Splitting anew succeeds when every text consists of lines with their line ends, and
splits every paragraph for itself. -/
theorem splitAnew_eq {pending : Text} {elements : List Element} (hpending : IsLines pending)
    (helements : ∀ text, .paragraph text ∈ elements → IsLines text) :
    splitAnew pending elements = .ok (paragraphs pending ++ elements.flatMap Element.split) := by
  induction elements generalizing pending with
  | nil =>
      rw [splitAnew, hpending.paragraphsOf_eq, List.flatMap_nil, List.append_nil]
  | cons element rest ih =>
      have hrest : ∀ text, .paragraph text ∈ rest → IsLines text :=
        fun text hmem => helements text (List.mem_cons_of_mem _ hmem)
      cases element with
      | paragraph text =>
          have htext := helements text List.mem_cons_self
          rw [splitAnew, ih (hpending.append htext) hrest, paragraphs_append hpending,
            List.flatMap_cons, List.append_assoc]
          rfl
      | table cells =>
          rw [splitAnew, hpending.paragraphsOf_eq, ih .nil hrest]
          rfl

/-- Where every paragraph is one line, splitting anew changes nothing. -/
theorem flatMap_split_eq_self {elements : List Element}
    (helements : ∀ text, .paragraph text ∈ elements → IsParagraph text) :
    elements.flatMap Element.split = elements := by
  induction elements with
  | nil => rfl
  | cons element rest ih =>
      rw [List.flatMap_cons, ih fun text hmem => helements text (List.mem_cons_of_mem _ hmem)]
      cases element with
      | paragraph text => rw [Element.split, (helements text List.mem_cons_self).paragraphs_eq]; rfl
      | table cells => rfl

end DocPress.MemoryDocument
