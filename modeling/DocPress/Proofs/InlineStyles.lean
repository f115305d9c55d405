import DocPress.Proofs.Ranges

/-!
# The styles of inline text

What a reader sees at one place of a rendered text is decided by the leaf of the
tree that the place belongs to: its own style first, and then the styles of the
containers around it, from the innermost one outwards. The operations that
rendering gives say exactly this at every code unit of the text.

A link is a leaf here, since nothing inside it is styled apart from the link.
-/

namespace DocPress

/-- A leaf of inline content, with the kinds of the containers that it stands in,
the innermost one first. -/
structure InlineLeaf where
  /-- The node. -/
  node : Inline
  /-- The kinds of the containers around it. -/
  containers : List Inline.Kind := []

namespace InlineLeaf

/-- The text of a leaf. -/
def text (leaf : InlineLeaf) : Text :=
  match leaf.node.kind with
  | .link =>
      decodeEntities
        (if leaf.node.children.isEmpty then leaf.node.text else plainText leaf.node.children)
  | .softBreak => [' ']
  | .hardBreak => ['\n']
  | .checkbox => [ballotBox leaf.node.checked]
  | _ => decodeEntities leaf.node.text

/-- The style of a leaf itself: code has one, and so has a link with a
destination. -/
def ownStyles (leaf : InlineLeaf) : List Style :=
  match leaf.node.kind, leaf.node.href with
  | .codeSpan, _ => [codeSpanStyle]
  | .link, some (c :: destination) => [linkStyle (c :: destination)]
  | _, _ => []

/-- The style that a container gives to its text. -/
def containerStyles : Inline.Kind → List Style
  | .strong => [boldStyle]
  | .emphasis => [italicStyle]
  | .strikethrough => [strikethroughStyle]
  | _ => []

/-- The styles of a leaf: its own, and those of its containers from the innermost
one outwards. -/
def styles (leaf : InlineLeaf) : List Style :=
  leaf.ownStyles ++ leaf.containers.flatMap containerStyles

/-- A leaf with one more container around all others. -/
def within (kind : Inline.Kind) (leaf : InlineLeaf) : InlineLeaf :=
  { leaf with containers := leaf.containers ++ [kind] }

@[simp]
theorem text_within (kind : Inline.Kind) (leaf : InlineLeaf) :
    (leaf.within kind).text = leaf.text := rfl

/-- The style of a container comes after those of everything inside it. -/
theorem styles_within (kind : Inline.Kind) (leaf : InlineLeaf) :
    (leaf.within kind).styles = leaf.styles ++ containerStyles kind := by
  change leaf.ownStyles ++ (leaf.containers ++ [kind]).flatMap containerStyles = _
  simp [styles]

end InlineLeaf

mutual

/-- The leaves of a node from left to right. -/
def Inline.leaves : Inline → List InlineLeaf
  | ⟨kind, text, children, href, checked⟩ =>
      match kind with
      | .strong | .emphasis | .strikethrough => (inlineLeaves children).map (·.within kind)
      | .other _ =>
          if children.isEmpty then [{ node := ⟨kind, text, children, href, checked⟩ }]
          else (inlineLeaves children).map (·.within kind)
      | _ => [{ node := ⟨kind, text, children, href, checked⟩ }]

/-- The leaves of nodes from left to right. -/
def inlineLeaves : List Inline → List InlineLeaf
  | [] => []
  | node :: rest => node.leaves ++ inlineLeaves rest

end

/-- The leaf that gave the code unit at an offset of the text of leaves. -/
def leafAt? : List InlineLeaf → Nat → Option InlineLeaf
  | [], _ => none
  | leaf :: rest, offset =>
      if offset < units leaf.text then some leaf else leafAt? rest (offset - units leaf.text)

/-- Every code unit of the text belongs to a leaf, and no other offset does. -/
theorem leafAt?_isSome_iff {leaves : List InlineLeaf} {offset : Nat} :
    (leafAt? leaves offset).isSome ↔ offset < units (leaves.flatMap InlineLeaf.text) := by
  induction leaves generalizing offset with
  | nil => simp [leafAt?]
  | cons leaf rest ih =>
      rw [leafAt?, List.flatMap_cons, units_append]
      split
      next hlt =>
        simp only [Option.isSome_some, true_iff]
        omega
      next hge =>
        rw [ih]
        omega

/-- An offset belongs to a leaf of the first list, or, counted from its end, to one of the second.
-/
theorem leafAt?_append (first second : List InlineLeaf) (offset : Nat) :
    leafAt? (first ++ second) offset =
      if offset < units (first.flatMap InlineLeaf.text) then leafAt? first offset
      else leafAt? second (offset - units (first.flatMap InlineLeaf.text)) := by
  -- The offset is counted down by the text of each leaf that is passed.
  induction first generalizing offset with
  | nil => simp
  | cons leaf rest ih =>
      rw [List.cons_append, leafAt?, leafAt?, List.flatMap_cons, units_append]
      by_cases hlt : offset < units leaf.text
      · rw [if_pos hlt, if_pos hlt, if_pos (by omega)]
      · rw [if_neg hlt, if_neg hlt, ih, Nat.sub_sub]
        congr 1
        apply propext
        omega

/-- A container around leaves changes their styles, not their places. -/
theorem leafAt?_within (kind : Inline.Kind) (leaves : List InlineLeaf) (offset : Nat) :
    leafAt? (leaves.map (·.within kind)) offset =
      (leafAt? leaves offset).map (·.within kind) := by
  induction leaves generalizing offset with
  | nil => rfl
  | cons leaf rest ih =>
      rw [List.map_cons, leafAt?, leafAt?, InlineLeaf.text_within]
      split
      · rfl
      · exact ih _

theorem flatMap_text_within (kind : Inline.Kind) (leaves : List InlineLeaf) :
    (leaves.map (·.within kind)).flatMap InlineLeaf.text = leaves.flatMap InlineLeaf.text := by
  rw [List.flatMap_map]
  rfl

/-! ## Styles at a position -/

/-- The styles that operations give to a position, in their order. -/
def stylesAt (position : Int) (operations : List StyleOperation) : List Style :=
  (operations.filter (·.covers position)).map (·.style)

@[simp]
theorem stylesAt_append (position : Int) (first second : List StyleOperation) :
    stylesAt position (first ++ second) = stylesAt position first ++ stylesAt position second := by
  simp [stylesAt]

theorem stylesAt_eq_nil {position : Int} {operations : List StyleOperation}
    (hnone : ∀ operation ∈ operations, operation.covers position = false) :
    stylesAt position operations = [] := by
  rw [stylesAt, List.filter_eq_nil_iff.mpr, List.map_nil]
  intro operation hmem
  simp [hnone operation hmem]

/-- An operation gives its style to the positions that it covers and to no others. -/
theorem stylesAt_covering (start : Int) (offset length : Nat) (style : Style) :
    stylesAt (start + offset) (StyleOperation.covering start (start + length) style) =
      if offset < length then [style] else [] := by
  by_cases hlt : offset < length
  · have hcovers : (StyleOperation.mk start (start + length) style).covers (start + offset) := by
      simp only [StyleOperation.covers, Bool.and_eq_true, decide_eq_true_eq]
      omega
    rw [StyleOperation.covering, if_pos (by omega), if_pos hlt, stylesAt]
    simp [hcovers]
  · rw [if_neg hlt]
    apply stylesAt_eq_nil
    intro operation hmem
    obtain ⟨_, rfl⟩ := StyleOperation.mem_covering.mp hmem
    simp only [StyleOperation.covers, Bool.and_eq_false_iff, decide_eq_false_iff_not]
    omega

/-! ## Rendering -/

/-- Whether styled text that begins at a position is the text of some leaves, each
with exactly its styles. -/
structure Styled.Shows (styled : Styled) (start : Int) (leaves : List InlineLeaf) : Prop where
  text_eq : styled.text = leaves.flatMap InlineLeaf.text
  styles_eq : ∀ offset : Nat,
    stylesAt (start + offset) styled.operations =
      ((leafAt? leaves offset).map InlineLeaf.styles).getD []

namespace Styled.Shows

variable {start : Int}

/-- Text without styles shows a leaf that has none. -/
theorem plain (node : Inline) (hown : InlineLeaf.ownStyles { node } = []) :
    (Styled.plain (InlineLeaf.text { node })).Shows start [{ node }] where
  text_eq := by simp [Styled.plain]
  styles_eq offset := by
    have hstyles : InlineLeaf.styles { node } = [] := by simp [InlineLeaf.styles, hown]
    rw [leafAt?]
    split
    next => simp [Styled.plain, stylesAt, hstyles]
    next => simp [Styled.plain, stylesAt, leafAt?]

/-- Text wrapped in one style shows a leaf that has this style only. -/
theorem wrap_plain (node : Inline) {style : Style}
    (hown : InlineLeaf.ownStyles { node } = [style]) :
    ((Styled.plain (InlineLeaf.text { node })).wrap start style).Shows start [{ node }] where
  text_eq := by simp [Styled.plain, Styled.wrap]
  styles_eq offset := by
    have hstyles : InlineLeaf.styles { node } = [style] := by simp [InlineLeaf.styles, hown]
    change stylesAt _ ([] ++ StyleOperation.covering start _ style) = _
    rw [List.nil_append, Styled.plain, stylesAt_covering, leafAt?]
    split
    next => rw [Option.map_some, Option.getD_some, hstyles]
    next => rfl

/-- The style of a container follows the styles of everything inside. -/
theorem wrap {styled : Styled} {leaves : List InlineLeaf} (hshows : styled.Shows start leaves)
    {kind : Inline.Kind} {style : Style} (hkind : InlineLeaf.containerStyles kind = [style]) :
    (styled.wrap start style).Shows start (leaves.map (·.within kind)) where
  text_eq := by
    rw [flatMap_text_within]
    exact hshows.text_eq
  styles_eq offset := by
    change stylesAt _ (styled.operations ++ _) = _
    rw [stylesAt_append, stylesAt_covering, hshows.styles_eq, leafAt?_within, hshows.text_eq]
    -- The new operation covers exactly the offsets that belong to some leaf.
    cases hleaf : leafAt? leaves offset with
    | none =>
        have hout : ¬ offset < units (leaves.flatMap InlineLeaf.text) := by
          rw [← leafAt?_isSome_iff, hleaf]
          simp
        simp [hout]
    | some leaf =>
        have hin : offset < units (leaves.flatMap InlineLeaf.text) := by
          rw [← leafAt?_isSome_iff, hleaf]
          rfl
        simp [hin, InlineLeaf.styles_within, hkind]

/-- A container without a style of its own adds nothing. -/
theorem within {styled : Styled} {leaves : List InlineLeaf} (hshows : styled.Shows start leaves)
    {kind : Inline.Kind} (hkind : InlineLeaf.containerStyles kind = []) :
    styled.Shows start (leaves.map (·.within kind)) where
  text_eq := by
    rw [flatMap_text_within]
    exact hshows.text_eq
  styles_eq offset := by
    rw [hshows.styles_eq, leafAt?_within, Option.map_map]
    congr 2
    funext leaf
    simp [InlineLeaf.styles_within, hkind]

/-- One styled text after another: the operations of each leave the other text
alone. -/
theorem append {first second : Styled} {left right : List InlineLeaf}
    (hfirst : first.Shows start left) (hsecond : second.Shows (start + units first.text) right)
    (hfirstLies : first.OperationsLieIn start)
    (hsecondLies : second.OperationsLieIn (start + units first.text)) :
    (first.append second).Shows start (left ++ right) where
  text_eq := by
    rw [List.flatMap_append, ← hfirst.text_eq, ← hsecond.text_eq]
    rfl
  styles_eq offset := by
    change stylesAt _ (first.operations ++ second.operations) = _
    rw [stylesAt_append, leafAt?_append, ← hfirst.text_eq]
    -- An offset lies in one of the two texts, out of reach of the operations of the other.
    by_cases hlt : offset < units first.text
    · have hsecondNone : stylesAt (start + offset) second.operations = [] := by
        apply stylesAt_eq_nil
        intro operation hmem
        exact (hsecondLies operation hmem).not_covers_of_lt (by omega)
      rw [if_pos hlt, hsecondNone, List.append_nil, hfirst.styles_eq]
    · have hfirstNone : stylesAt (start + offset) first.operations = [] := by
        apply stylesAt_eq_nil
        intro operation hmem
        exact (hfirstLies operation hmem).not_covers_of_le (by omega)
      have hposition : start + (offset : Int) =
          start + units first.text + (offset - units first.text : Nat) := by omega
      rw [if_neg hlt, hfirstNone, List.nil_append, hposition, hsecond.styles_eq]

end Styled.Shows

mutual

/-- A rendered node shows its leaves: each case adds the one style of its kind, or none. -/
theorem Inline.render_shows :
    ∀ (node : Inline) (start : Int), (node.render start).Shows start node.leaves
  | ⟨kind, text, children, href, checked⟩, start => by
      have hchildren := renderInline_shows children start
      cases kind with
      | strong => exact hchildren.wrap rfl
      | emphasis => exact hchildren.wrap rfl
      | strikethrough => exact hchildren.wrap rfl
      | link =>
          match href with
          | none => exact .plain ⟨.link, text, children, none, checked⟩ rfl
          | some [] => exact .plain ⟨.link, text, children, some [], checked⟩ rfl
          | some (c :: destination) =>
              exact .wrap_plain ⟨.link, text, children, some (c :: destination), checked⟩ rfl
      | codeSpan => exact .wrap_plain ⟨.codeSpan, text, children, href, checked⟩ rfl
      | other name =>
          unfold Inline.render Inline.leaves
          dsimp only
          split
          · exact .plain ⟨.other name, text, children, href, checked⟩ rfl
          · exact hchildren.within rfl
      | text => exact .plain ⟨.text, text, children, href, checked⟩ rfl
      | softBreak => exact .plain ⟨.softBreak, text, children, href, checked⟩ rfl
      | hardBreak => exact .plain ⟨.hardBreak, text, children, href, checked⟩ rfl
      | checkbox => exact .plain ⟨.checkbox, text, children, href, checked⟩ rfl

/-- Rendered nodes show their leaves one after the other. -/
theorem renderInline_shows :
    ∀ (nodes : List Inline) (start : Int),
      (renderInline start nodes).Shows start (inlineLeaves nodes)
  | [], _ => ⟨rfl, fun _ => rfl⟩
  | node :: rest, start =>
      (Inline.render_shows node start).append (renderInline_shows rest _)
        (Inline.render_operationsLieIn node start) (renderInline_operationsLieIn rest _)

end

/-- The text of inline content is the text of its leaves, and at every code unit of
it the operations give exactly the styles of the leaf that the unit belongs to: its
own, and then those of its containers from the innermost one outwards. At every
other offset they give none. -/
theorem renderInline_styles_eq_leaf_styles (nodes : List Inline) (start : Int) :
    (renderInline start nodes).text = (inlineLeaves nodes).flatMap InlineLeaf.text ∧
      ∀ offset : Nat,
        ((leafAt? (inlineLeaves nodes) offset).isSome ↔
          offset < units (renderInline start nodes).text) ∧
        stylesAt (start + offset) (renderInline start nodes).operations =
          ((leafAt? (inlineLeaves nodes) offset).map InlineLeaf.styles).getD [] := by
  have hshows := renderInline_shows nodes start
  refine ⟨hshows.text_eq, fun offset => ⟨?_, hshows.styles_eq offset⟩⟩
  rw [hshows.text_eq]
  exact leafAt?_isSome_iff

end DocPress
