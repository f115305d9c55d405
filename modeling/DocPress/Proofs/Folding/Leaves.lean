import DocPress.Node.OfTokens

/-!
# The text of folded tokens

Folding inline tokens keeps the text of every token that neither opens nor closes a
container, in the order of the stream, and adds none. The stream need not be balanced: a
container left open is dissolved, a token that closes nothing is passed over, and any
closing token closes the innermost container, whatever it is named.

The one condition is on the containers. A line break or a checkbox shows a character of its
own when nothing is in it, so opening one could add text.
-/

namespace DocPress

/-- Whether a container of a kind shows a character although nothing is in it. -/
def Inline.Kind.ShowsItself (kind : Inline.Kind) : Prop :=
  kind = .softBreak ∨ kind = .hardBreak ∨ kind = .checkbox

instance (kind : Inline.Kind) : Decidable kind.ShowsItself :=
  inferInstanceAs (Decidable (kind = .softBreak ∨ kind = .hardBreak ∨ kind = .checkbox))

namespace Token

/-- Whether a token neither opens nor closes a container. -/
def standsAlone (token : Token) : Bool :=
  token.nesting != 1 && token.nesting != -1

/-- Whether a token opens a container that would show a character of its own. -/
def OpensCharacter (token : Token) : Prop :=
  token.nesting = 1 ∧ (Inline.Kind.ofName (baseName token.name)).ShowsItself

instance (token : Token) : Decidable token.OpensCharacter :=
  inferInstanceAs
    (Decidable (token.nesting = 1 ∧ (Inline.Kind.ofName (baseName token.name)).ShowsItself))

/-- The text that tokens show: that of each token which neither opens nor closes a
container. -/
def shownText (tokens : List Token) : Text :=
  (tokens.filter standsAlone).flatMap fun token => (Inline.ofToken token).plainText

theorem shownText_cons_of_standsAlone {token : Token} (hstands : token.standsAlone = true)
    (rest : List Token) :
    shownText (token :: rest) = (Inline.ofToken token).plainText ++ shownText rest := by
  rw [shownText, List.filter_cons_of_pos hstands, List.flatMap_cons]
  rfl

/-- A token that opens or closes a container shows nothing. -/
theorem shownText_cons_of_not_standsAlone {token : Token} (hnot : token.standsAlone = false)
    (rest : List Token) : shownText (token :: rest) = shownText rest := by
  rw [shownText, List.filter_cons_of_neg (by simp [hnot])]
  rfl

end Token

@[simp]
theorem plainText_append (first second : List Inline) :
    plainText (first ++ second) = plainText first ++ plainText second := by
  induction first with
  | nil => rfl
  | cons node rest ih => rw [List.cons_append, plainText, plainText, ih, List.append_assoc]

theorem plainText_singleton (node : Inline) : plainText [node] = node.plainText :=
  List.append_nil _

/-- A container has the text of what is in it. -/
theorem Inline.plainText_container {kind : Inline.Kind} (hkind : ¬ kind.ShowsItself)
    (children : List Inline) (href : Option Text) :
    Inline.plainText { kind, children, href } = DocPress.plainText children := by
  cases children with
  | nil =>
      rw [Inline.plainText]
      cases kind with
      | softBreak => exact absurd (.inl rfl) hkind
      | hardBreak => exact absurd (.inr (.inl rfl)) hkind
      | checkbox => exact absurd (.inr (.inr rfl)) hkind
      | _ => rfl
  | cons node rest => rw [Inline.plainText, List.isEmpty_cons]; rfl

/-- A text token without text leaves no node, but its node would have no text anyway. -/
theorem Inline.plainText_ofToken_of_empty {token : Token}
    (hempty : (token.name = "text" && token.content.isEmpty) = true) :
    (Inline.ofToken token).plainText = [] := by
  obtain ⟨name, tag, nesting, content, href, children⟩ := token
  simp only [Bool.and_eq_true, decide_eq_true_eq, List.isEmpty_iff] at hempty
  obtain ⟨rfl, rfl⟩ := hempty
  simp [Inline.ofToken, Inline.Kind.ofName, Inline.plainText, Inline.leafText]

namespace InlineStack

/-- The text of all that was read so far. -/
def text (stack : InlineStack) : Text :=
  plainText stack.dissolve

/-- Whether none of the open containers would show a character of its own. -/
def IsSilent (stack : InlineStack) : Prop :=
  ∀ frame ∈ stack.frames, ¬ frame.kind.ShowsItself

/-! ## One token -/

section Steps

variable (stack : InlineStack)

theorem text_extend (nodes : List Inline) :
    (stack.extend nodes).text = stack.text ++ plainText nodes := by
  obtain ⟨frames, outside⟩ := stack
  cases frames with
  | nil => simp [text, extend, dissolve, openNodes]
  | cons frame outer => simp [text, extend, dissolve, openNodes]

theorem text_push (kind : Inline.Kind) (href : Option Text) :
    (stack.push kind href).text = stack.text := by
  simp [text, push, dissolve, openNodes]

variable {stack}

/-- What was in a container stands where the container is dissolved or closed. -/
theorem text_pop (hsilent : stack.IsSilent) : stack.pop.text = stack.text := by
  obtain ⟨frames, outside⟩ := stack
  cases frames with
  | nil => rfl
  | cons frame outer =>
      have hframe : ¬ frame.kind.ShowsItself := hsilent frame List.mem_cons_self
      change (extend ⟨outer, outside⟩ _).text = _
      rw [text_extend, plainText_singleton, Inline.plainText_container hframe]
      simp [text, dissolve, openNodes]

theorem IsSilent.extend (hsilent : stack.IsSilent) (nodes : List Inline) :
    (stack.extend nodes).IsSilent := by
  obtain ⟨frames, outside⟩ := stack
  cases frames with
  | nil => exact hsilent
  | cons frame outer => exact List.forall_mem_cons.mpr (List.forall_mem_cons.mp hsilent)

theorem IsSilent.push (hsilent : stack.IsSilent) {kind : Inline.Kind} (hkind : ¬ kind.ShowsItself)
    (href : Option Text) : (stack.push kind href).IsSilent :=
  List.forall_mem_cons.mpr ⟨hkind, hsilent⟩

theorem IsSilent.pop (hsilent : stack.IsSilent) : stack.pop.IsSilent := by
  obtain ⟨frames, outside⟩ := stack
  cases frames with
  | nil => exact hsilent
  | cons frame outer =>
      have houter : IsSilent ⟨outer, outside⟩ := (List.forall_mem_cons.mp hsilent).2
      exact houter.extend _

end Steps

/-! ## Streams -/

/-- The text after further tokens is the text before them and what they show. -/
theorem text_run (tokens : List Token) {stack : InlineStack} (hsilent : stack.IsSilent)
    (hopens : ∀ token ∈ tokens, ¬ token.OpensCharacter) :
    (stack.run tokens).text = stack.text ++ Token.shownText tokens := by
  -- The invariant is that no open container would show a character when it is dissolved.
  induction tokens generalizing stack with
  | nil => exact (List.append_nil _).symm
  | cons token rest ih =>
      obtain ⟨htoken, hrest⟩ := List.forall_mem_cons.mp hopens
      rw [run]
      split
      next hopening =>
        -- Three kinds of tokens: one that opens a container, one that closes, one that stands
        -- alone.
        have hkind : ¬ (Inline.Kind.ofName (Token.baseName token.name)).ShowsItself :=
          fun hshows => htoken ⟨hopening, hshows⟩
        have hnot : token.standsAlone = false := by simp [Token.standsAlone, hopening]
        rw [ih (hsilent.push hkind _) hrest, text_push,
          Token.shownText_cons_of_not_standsAlone hnot]
      next hopening =>
        split
        next hclosing =>
          have hnot : token.standsAlone = false := by simp [Token.standsAlone, hclosing]
          rw [ih hsilent.pop hrest, text_pop hsilent, Token.shownText_cons_of_not_standsAlone hnot]
        next hclosing =>
          have hstands : token.standsAlone = true := by simp [Token.standsAlone, hopening, hclosing]
          rw [Token.shownText_cons_of_standsAlone hstands]
          split
          next hempty =>
            rw [ih hsilent hrest, Inline.plainText_ofToken_of_empty hempty, List.nil_append]
          next =>
            rw [ih (hsilent.extend _) hrest, text_extend, plainText_singleton, List.append_assoc]

end InlineStack

/-- The text of folded tokens is what the tokens show. -/
theorem Inline.plainText_ofTokens_eq {tokens : List Token}
    (hopens : ∀ token ∈ tokens, ¬ token.OpensCharacter) :
    DocPress.plainText (Inline.ofTokens tokens) = Token.shownText tokens :=
  InlineStack.text_run tokens (fun _ hmem => absurd hmem List.not_mem_nil) hopens

/-- An image has the text of the nodes that the tokens inside it leave, if they leave any. -/
theorem Inline.plainText_ofToken_image {token : Token} (himage : token.name = "image")
    (hinside : Inline.ofTokens token.children ≠ []) :
    (Inline.ofToken token).plainText = DocPress.plainText (Inline.ofTokens token.children) := by
  obtain ⟨name, tag, nesting, content, href, children⟩ := token
  obtain rfl : name = "image" := himage
  have hnode : Inline.ofToken { name := "image", tag, nesting, content, href, children } =
      { kind := .other "image", text := content, children := Inline.ofTokens children } := by
    simp [Inline.ofToken, Inline.ofTokens]
  rw [hnode, Inline.plainText, if_neg (by simpa using hinside)]

/-- Folding inline tokens neither loses nor repeats nor moves text, whatever is opened and
closed: the text of the nodes is that of the tokens that neither open nor close a container,
one after the other. The text of an image follows from the tokens inside it in the same
way. -/
theorem Inline.plainText_ofTokens {tokens : List Token}
    (hopens : ∀ token ∈ tokens, ¬ token.OpensCharacter) :
    DocPress.plainText (Inline.ofTokens tokens) =
        (tokens.filter Token.standsAlone).flatMap (fun token => (Inline.ofToken token).plainText) ∧
      ∀ image ∈ tokens, image.name = "image" → Inline.ofTokens image.children ≠ [] →
        (∀ token ∈ image.children, ¬ token.OpensCharacter) →
        (Inline.ofToken image).plainText = (image.children.filter Token.standsAlone).flatMap
          (fun token => (Inline.ofToken token).plainText) := by
  refine ⟨Inline.plainText_ofTokens_eq hopens, fun image _ himage hinside hchildren => ?_⟩
  rw [Inline.plainText_ofToken_image himage hinside]
  exact Inline.plainText_ofTokens_eq hchildren

/-- A strong container that a token for emphasis closes, a token that closes nothing, and an
image in a container that is left open, with an open container inside the image. -/
def unbalancedTokens : List Token :=
  [.opening "strong_open" "strong", .leaf "text" "a".toList, .closing "em_close" "em",
    .closing "link_close" "a", .opening "em_open" "em",
    { name := "image", content := "x".toList,
      children := [.leaf "text" "b".toList, .opening "s_open" "s", .leaf "softbreak",
        .leaf "code_inline" "c".toList] },
    .leaf "hardbreak"]

theorem plainText_unbalancedTokens :
    (∀ token ∈ unbalancedTokens, ¬ token.OpensCharacter) ∧
      plainText (Inline.ofTokens unbalancedTokens) = "ab c ".toList := by
  have hopens : ∀ token ∈ unbalancedTokens, ¬ token.OpensCharacter := by decide +kernel
  refine ⟨hopens, ?_⟩
  rw [(Inline.plainText_ofTokens hopens).1]
  decide +kernel

end DocPress
