import DocPress.Node.OfTokens
import DocPress.Proofs.EntityScan
import DocPress.Proofs.InlineStyles

/-!
# Plain text and styled text

Links, table cells and quotes show inline content as plain text: the texts of its leaves
are put together first, and then entities are decoded. Styled text is decoded leaf by leaf.
The two are the same characters exactly if the leaves cut no entity. Hard line breaks are
left out here, since plain text shows them as blanks.
-/

namespace DocPress

namespace Inline

/-- Whether a kind is that of a container. -/
def Kind.IsContainer (kind : Kind) : Prop :=
  kind = .strong ∨ kind = .emphasis ∨ kind = .strikethrough ∨ kind = .link

instance (kind : Kind) : Decidable kind.IsContainer :=
  inferInstanceAs
    (Decidable (kind = .strong ∨ kind = .emphasis ∨ kind = .strikethrough ∨ kind = .link))

/-- Whether a node has only what folding gives to a node of its kind, at any depth. A
container has no text of its own, and only containers and nodes of unknown kinds, images
among them, have children. -/
inductive IsFolded : Inline → Prop
  | container {kind : Kind} {children : List Inline} {href : Option Text} {checked : Bool}
      (hkind : kind.IsContainer) (hchildren : ∀ node ∈ children, IsFolded node) :
      IsFolded { kind, children, href, checked }
  | leaf {kind : Kind} {text : Text} {href : Option Text} {checked : Bool}
      (hkind : ¬ kind.IsContainer) : IsFolded { kind, text, href, checked }
  | other {name : String} {text : Text} {children : List Inline} {href : Option Text}
      {checked : Bool} (hchildren : ∀ node ∈ children, IsFolded node) :
      IsFolded { kind := .other name, text, children, href, checked }

/-- Whether a node is shown as one piece: a link, or a node without children that is no
container. -/
def IsLeaf (node : Inline) : Prop :=
  node.kind = .link ∨ (¬ node.kind.IsContainer ∧ node.children = [])

end Inline

/-! ## Folding gives folded nodes -/

/-- Whether a kind is that of a container or an unknown one. -/
def Inline.Kind.MayHold (kind : Inline.Kind) : Prop :=
  kind.IsContainer ∨ ∃ name, kind = .other name

/-- Whether only containers are opened by a token or a token inside it, and every container is
opened. -/
inductive Token.Folds : Token → Prop
  | intro {token : Token}
      (hopens : token.nesting = 1 → (Inline.Kind.ofName (Token.baseName token.name)).MayHold)
      (hstands : token.nesting ≠ 1 → ¬ (Inline.Kind.ofName token.name).IsContainer)
      (hinside : ∀ child ∈ token.children, Folds child) : Folds token

theorem Inline.IsFolded.of_mayHold {kind : Inline.Kind} {children : List Inline}
    {href : Option Text} (hkind : kind.MayHold) (hchildren : ∀ node ∈ children, node.IsFolded) :
    Inline.IsFolded { kind, children, href } := by
  rcases hkind with hkind | ⟨name, rfl⟩
  · exact .container hkind hchildren
  · exact .other hchildren

namespace InlineStack

/-- Whether all nodes read so far are folded, and only containers are open. -/
structure IsFolded (stack : InlineStack) : Prop where
  nodes : ∀ node ∈ stack.nodes, node.IsFolded
  frames : ∀ frame ∈ stack.frames, frame.kind.MayHold ∧ ∀ node ∈ frame.nodes, node.IsFolded

theorem isFolded_empty : IsFolded {} :=
  ⟨by simp, by simp⟩

namespace IsFolded

variable {stack : InlineStack}

/-- Nodes put beneath the innermost frame leave the stack folded. -/
theorem extend (hstack : stack.IsFolded) {nodes : List Inline}
    (hnodes : ∀ node ∈ nodes, node.IsFolded) : (stack.extend nodes).IsFolded := by
  obtain ⟨frames, outside⟩ := stack
  cases frames with
  | nil =>
      refine ⟨fun node hmem => ?_, hstack.frames⟩
      exact (List.mem_append.mp hmem).elim (hstack.nodes node) (hnodes node)
  | cons frame outer =>
      refine ⟨hstack.nodes, List.forall_mem_cons.mpr ⟨?_, ?_⟩⟩
      · have hframe := hstack.frames frame List.mem_cons_self
        refine ⟨hframe.1, fun node hmem => ?_⟩
        exact (List.mem_append.mp hmem).elim (hframe.2 node) (hnodes node)
      · exact fun other hmem => hstack.frames other (List.mem_cons_of_mem _ hmem)

theorem push (hstack : stack.IsFolded) {kind : Inline.Kind} (hkind : kind.MayHold)
    (href : Option Text) : (stack.push kind href).IsFolded :=
  ⟨hstack.nodes, List.forall_mem_cons.mpr ⟨⟨hkind, by simp⟩, hstack.frames⟩⟩

/-- The node of the innermost frame, when it is closed, is folded with what it holds. -/
theorem pop (hstack : stack.IsFolded) : stack.pop.IsFolded := by
  obtain ⟨frames, outside⟩ := stack
  cases frames with
  | nil => exact hstack
  | cons frame outer =>
      obtain ⟨hframe, houter⟩ := List.forall_mem_cons.mp hstack.frames
      have hrest : IsFolded ⟨outer, outside⟩ := ⟨hstack.nodes, houter⟩
      refine hrest.extend ?_
      exact List.forall_mem_singleton.mpr (.of_mayHold hframe.1 hframe.2)

/-- Frames that are never closed give up the nodes they hold, which are folded. -/
theorem dissolve (hstack : stack.IsFolded) : ∀ node ∈ stack.dissolve, node.IsFolded := by
  have hopen : ∀ frames : List OpenInline,
      (∀ frame ∈ frames, frame.kind.MayHold ∧ ∀ node ∈ frame.nodes, node.IsFolded) →
        ∀ node ∈ openNodes frames, node.IsFolded := by
    intro frames hframes node hmem
    induction frames with
    | nil => simp [openNodes] at hmem
    | cons frame outer ih =>
        obtain ⟨hframe, houter⟩ := List.forall_mem_cons.mp hframes
        exact (List.mem_append.mp hmem).elim (ih houter) (hframe.2 node)
  intro node hmem
  exact (List.mem_append.mp hmem).elim (hstack.nodes node) (hopen stack.frames hstack.frames node)

end IsFolded

end InlineStack

mutual

/-- A token that stands for a node of its own gives a folded one, an image with its children. -/
theorem Inline.ofToken_isFolded :
    ∀ token : Token, token.Folds → token.nesting ≠ 1 → (Inline.ofToken token).IsFolded
  | ⟨name, tag, nesting, content, href, children⟩, hfolds, hnesting => by
      cases hfolds with
      | intro hopens hstands hinside =>
          have hkind := hstands hnesting
          have himage := InlineStack.run_isFolded children {} InlineStack.isFolded_empty hinside
          unfold Inline.ofToken
          repeat' split
          · exact .leaf (by decide)
          · exact .leaf (by decide)
          · exact .leaf (by decide)
          · exact .leaf (by decide)
          · exact .other himage.dissolve
          · exact .leaf hkind

/-- Reading tokens keeps the stack folded: each either opens, closes or stands for itself. -/
theorem InlineStack.run_isFolded :
    ∀ (tokens : List Token) (stack : InlineStack), stack.IsFolded →
      (∀ token ∈ tokens, token.Folds) → (stack.run tokens).IsFolded
  | [], _, hstack, _ => hstack
  | token :: rest, stack, hstack, hfolds => by
      obtain ⟨htoken, hrest⟩ := List.forall_mem_cons.mp hfolds
      have hstands := Inline.ofToken_isFolded token htoken
      rw [InlineStack.run]
      split
      next hopening =>
        cases htoken with
        | intro hopens _ _ =>
            exact InlineStack.run_isFolded rest _ (hstack.push (hopens hopening) _) hrest
      next hnesting =>
        split
        next => exact InlineStack.run_isFolded rest _ hstack.pop hrest
        next =>
          split
          next => exact InlineStack.run_isFolded rest _ hstack hrest
          next =>
            refine InlineStack.run_isFolded rest _ (hstack.extend ?_) hrest
            exact List.forall_mem_singleton.mpr (hstands hnesting)

end

/-- The nodes of inline tokens are folded, as long as nothing but containers is opened. -/
theorem Inline.ofTokens_isFolded {tokens : List Token} (hfolds : ∀ token ∈ tokens, token.Folds) :
    ∀ node ∈ Inline.ofTokens tokens, node.IsFolded :=
  (InlineStack.run_isFolded tokens {} InlineStack.isFolded_empty hfolds).dissolve

/-! ## The leaves of folded nodes -/

/-- A container around leaves changes their styles and none of their texts. -/
theorem flatMap_plainText_within (kind : Inline.Kind) (leaves : List InlineLeaf) :
    (leaves.map (·.within kind)).flatMap (·.node.plainText) =
      leaves.flatMap (·.node.plainText) := by
  rw [List.flatMap_map]
  rfl

/-- The plain text of a line is that of its leaves if that is so for each of its nodes. -/
theorem plainText_eq_flatMap_leaves {nodes : List Inline}
    (hnodes : ∀ node ∈ nodes, node.plainText = node.leaves.flatMap (·.node.plainText)) :
    plainText nodes = (inlineLeaves nodes).flatMap (·.node.plainText) := by
  induction nodes with
  | nil => rfl
  | cons node rest ih =>
      rw [plainText, inlineLeaves, List.flatMap_append, hnodes node List.mem_cons_self,
        ih fun other hmem => hnodes other (List.mem_cons_of_mem _ hmem)]

theorem mem_inlineLeaves {leaf : InlineLeaf} {nodes : List Inline} :
    leaf ∈ inlineLeaves nodes ↔ ∃ node ∈ nodes, leaf ∈ node.leaves := by
  induction nodes with
  | nil => simp [inlineLeaves]
  | cons node rest ih => simp [inlineLeaves, ih]

namespace Inline.IsFolded

/-- A folded node is a leaf, or its leaves and its plain text are those of its children. -/
theorem leaves_induction {motive : Inline → Prop}
    (leaf : ∀ node : Inline, node.IsLeaf → node.leaves = [{ node }] → motive node)
    (within : ∀ node : Inline, node.plainText = DocPress.plainText node.children →
      node.leaves = (inlineLeaves node.children).map (·.within node.kind) →
      (∀ child ∈ node.children, motive child) → motive node)
    {node : Inline} (hfolded : node.IsFolded) : motive node := by
  induction hfolded with
  | @container kind children href checked hkind hchildren ih =>
      have hplain : Inline.plainText { kind, children, href, checked } =
          DocPress.plainText children := by
        rw [Inline.plainText]
        split
        next hempty =>
          rw [List.isEmpty_iff.mp hempty]
          rcases hkind with rfl | rfl | rfl | rfl <;> rfl
        next => rfl
      rcases hkind with rfl | rfl | rfl | rfl
      · exact within _ hplain rfl ih
      · exact within _ hplain rfl ih
      · exact within _ hplain rfl ih
      · exact leaf _ (.inl rfl) rfl
  | @leaf kind text href checked hkind =>
      refine leaf _ (.inr ⟨hkind, rfl⟩) ?_
      cases kind with
      | strong | emphasis | strikethrough => exact absurd hkind (by decide)
      | _ => rfl
  | @other name text children href checked hchildren ih =>
      cases children with
      | nil => exact leaf _ (.inr ⟨by simp [Kind.IsContainer], rfl⟩) rfl
      | cons child rest => exact within _ rfl rfl ih

/-- The plain text of a node is that of its leaves. -/
theorem plainText_eq {node : Inline} (hfolded : node.IsFolded) :
    node.plainText = node.leaves.flatMap (·.node.plainText) := by
  refine hfolded.leaves_induction
    (motive := fun node => node.plainText = node.leaves.flatMap (·.node.plainText)) ?leaf ?within
  case leaf =>
    intro node _ hleaves
    rw [hleaves, List.flatMap_singleton]
  case within =>
    intro node hplain hleaves ih
    rw [hplain, hleaves, flatMap_plainText_within]
    exact plainText_eq_flatMap_leaves ih

/-- The leaves of a folded node hold no nodes themselves. -/
theorem isLeaf_of_mem_leaves {node : Inline} (hfolded : node.IsFolded) :
    ∀ leaf ∈ node.leaves, leaf.node.IsLeaf := by
  refine hfolded.leaves_induction
    (motive := fun node => ∀ leaf ∈ node.leaves, leaf.node.IsLeaf) ?leaf ?within
  case leaf =>
    intro node hnode hleaves leaf hleaf
    rw [hleaves, List.mem_singleton] at hleaf
    rwa [hleaf]
  case within =>
    intro node _ hleaves ih leaf hleaf
    rw [hleaves] at hleaf
    obtain ⟨inner, hinner, rfl⟩ := List.mem_map.mp hleaf
    obtain ⟨child, hchild, hinner⟩ := mem_inlineLeaves.mp hinner
    exact ih child hchild inner hinner

end Inline.IsFolded

/-- A character by itself is no entity, since the shortest has four. -/
theorem decodeEntities_singleton (c : Char) : decodeEntities [c] = [c] := by
  refine decodeEntities_eq_self ?_
  rintro ⟨entity, hmem, hoccurs⟩
  have hlong : ∀ entity ∈ textEntities, 2 ≤ entity.1.length := by decide
  exact absurd hoccurs.length_le (Nat.not_le_of_lt (hlong entity hmem))

/-- A leaf shows its plain text, decoded, unless it is a hard line break. -/
theorem InlineLeaf.text_eq_decodeEntities {leaf : InlineLeaf} (hleaf : leaf.node.IsLeaf)
    (hbreak : leaf.node.kind ≠ .hardBreak) : leaf.text = decodeEntities leaf.node.plainText := by
  obtain ⟨⟨kind, text, children, href, checked⟩, containers⟩ := leaf
  rcases hleaf with rfl | ⟨hkind, rfl⟩
  · rfl
  · change ¬ kind.IsContainer at hkind
    cases kind with
    | strong | emphasis | strikethrough => exact absurd hkind (by decide)
    | hardBreak => exact absurd rfl hbreak
    | softBreak | checkbox => exact (decodeEntities_singleton _).symm
    | _ => rfl

/-! ## The two texts -/

/-- For content without hard line breaks, decoding the plain text gives the characters of the
styled text, wherever that begins, exactly if no entity reaches from one leaf into the next
ones. -/
theorem decodeEntities_plainText_eq_iff {nodes : List Inline}
    (hfolded : ∀ node ∈ nodes, node.IsFolded)
    (hbreak : ∀ leaf ∈ inlineLeaves nodes, leaf.node.kind ≠ .hardBreak) (start : Int) :
    decodeEntities (plainText nodes) = (renderInline start nodes).text ↔
      ¬ CutsEntity ((inlineLeaves nodes).map (·.node.plainText)) := by
  have hplain : plainText nodes = ((inlineLeaves nodes).map (·.node.plainText)).flatten := by
    rw [← List.flatMap_def]
    exact plainText_eq_flatMap_leaves fun node hmem => (hfolded node hmem).plainText_eq
  have hstyled : (renderInline start nodes).text =
      ((inlineLeaves nodes).map (·.node.plainText)).flatMap decodeEntities := by
    rw [(renderInline_shows nodes start).text_eq, List.flatMap_map, List.flatMap_def,
      List.flatMap_def]
    refine congrArg List.flatten (List.map_congr_left fun leaf hleaf => ?_)
    obtain ⟨node, hnode, hmem⟩ := mem_inlineLeaves.mp hleaf
    exact leaf.text_eq_decodeEntities ((hfolded node hnode).isLeaf_of_mem_leaves leaf hmem)
      (hbreak leaf hleaf)
  rw [hplain, hstyled, decodeEntities_flatten_eq_iff]

/-- Content with an entity in one leaf, and the beginning of one that the next leaf does not
go on with. -/
def uncutContent : List Inline :=
  [{ kind := .text, text := "1 &lt; 2 ".toList },
    { kind := .emphasis, children := [{ kind := .text, text := "&am".toList }] },
    { kind := .strong, children := [{ kind := .text, text := "p".toList }] }]

/-- Where no entity is cut, both ways show the same text. -/
theorem uncutContent_decodes_alike :
    (∀ node ∈ uncutContent, node.IsFolded) ∧
      (∀ leaf ∈ inlineLeaves uncutContent, leaf.node.kind ≠ .hardBreak) ∧
      decodeEntities (plainText uncutContent) = (renderInline 1 uncutContent).text := by
  have hleaf : ∀ text : Text, Inline.IsFolded { kind := .text, text } :=
    fun _ => .leaf (by decide)
  have hfolded : ∀ node ∈ uncutContent, node.IsFolded :=
    List.forall_mem_cons.mpr ⟨hleaf _, List.forall_mem_cons.mpr
      ⟨.container (by decide) (List.forall_mem_singleton.mpr (hleaf _)),
        List.forall_mem_singleton.mpr
          (.container (by decide) (List.forall_mem_singleton.mpr (hleaf _)))⟩⟩
  have hbreak : ∀ leaf ∈ inlineLeaves uncutContent, leaf.node.kind ≠ .hardBreak := by decide
  exact ⟨hfolded, hbreak,
    (decodeEntities_plainText_eq_iff hfolded hbreak 1).mpr (by decide +kernel)⟩

/-- The content of `&am*p;*`, which cuts an entity in two. -/
def cutAmpersand : List Inline :=
  [{ kind := .text, text := "&am".toList },
    { kind := .emphasis, children := [{ kind := .text, text := "p;".toList }] }]

/-- A cut entity is decoded in the plain text and stays in the styled text. -/
theorem cutAmpersand_decodes_differently :
    (∀ node ∈ cutAmpersand, node.IsFolded) ∧
      (∀ leaf ∈ inlineLeaves cutAmpersand, leaf.node.kind ≠ .hardBreak) ∧
      decodeEntities (plainText cutAmpersand) = "&".toList ∧
      (renderInline 1 cutAmpersand).text = "&amp;".toList := by
  have hleaf : ∀ text : Text, Inline.IsFolded { kind := .text, text } :=
    fun _ => .leaf (by decide)
  refine ⟨List.forall_mem_cons.mpr ⟨hleaf _, List.forall_mem_singleton.mpr ?_⟩, by decide, ?_⟩
  · exact .container (by decide) (List.forall_mem_singleton.mpr (hleaf _))
  · decide +kernel

end DocPress
