import DocPress.Proofs.Folding.Names

/-!
# Inline content as tokens

Inline nodes are written as a stream of tokens: a leaf as one token, a container as a pair
of tokens around what is inside. Folding the tokens gives the nodes back. An inline
container ends at the next token that closes anything, so that the tokens of every node
have to close exactly what they open.
-/

namespace DocPress

namespace Token

/-- The token that closes the containers of a name. -/
def closes (name : String) : Token :=
  { name := name ++ "_close", nesting := -1 }

/-- A container: the token that opens it, what is inside, and the token that closes it. -/
def wrap (name : String) (inside : List Token) (tag : Text := []) (href : Option Text := none) :
    List Token :=
  { name := name ++ "_open", tag, nesting := 1, href } :: inside ++ [closes name]

/-- A node of a kind that folding does not know: a container, or a token of its own if it
has text. A node with neither text nor anything inside can be written in both ways, and
`asLeaf` says which one its name calls for. -/
def foreign (asLeaf : String → Bool) (name : String) (text : Text) (inside : List Token) :
    List Token :=
  if text.isEmpty && !(inside.isEmpty && asLeaf name) then wrap name inside else [leaf name text]

/-- A node with text has no children, and is written as a leaf; one that has children, and
so no text, is written as a container. -/
theorem foreign_cases {α : Type} {children : List α} {asLeaf : String → Bool} {name : String}
    {text : Text} {inside : List Token} (hone : text = [] ∨ children = [])
    (hnone : inside = [] → children = []) :
    (text = [] ∧ foreign asLeaf name text inside = wrap name inside) ∨
      (children = [] ∧ foreign asLeaf name text inside = [leaf name text]) := by
  unfold foreign
  split
  next hcontainer =>
    rw [Bool.and_eq_true, List.isEmpty_iff] at hcontainer
    exact .inl ⟨hcontainer.1, rfl⟩
  next hleaf =>
    refine .inr ⟨?_, rfl⟩
    rcases hone with rfl | hchildren
    · simp only [List.isEmpty_nil, Bool.true_and, Bool.not_eq_true', Bool.not_eq_false,
        Bool.and_eq_true, List.isEmpty_iff] at hleaf
      exact hnone hleaf.1
    · exact hchildren

end Token

namespace Inline

/-- The source of a checkbox. -/
def checkboxSource (checked : Bool) : Text :=
  "<input ".toList ++ checkboxMark ++ (if checked then ' ' :: tickedMark else []) ++ ['>']

/-- The names that folding gives a meaning to among inline tokens and inline nodes. -/
def knownNames : List String :=
  ["text", "strong", "em", "s", "link", "codespan", "softbreak", "hardbreak", "checkbox",
    "code_inline", "image"]

/-- Whether a node is built from the fields that its kind has, and from others like it. A
piece of text is not empty, and a node of an unknown kind has text or children, but not
both, and is not the source of a checkbox. -/
inductive WellFormed : Inline → Prop
  | text {text : Text} (hne : text ≠ []) : WellFormed { kind := .text, text }
  | code (text : Text) : WellFormed { kind := .codeSpan, text }
  | softBreak : WellFormed { kind := .softBreak }
  | hardBreak : WellFormed { kind := .hardBreak }
  | checkbox (checked : Bool) : WellFormed { kind := .checkbox, checked }
  | styled {kind : Kind} {children : List Inline}
      (hkind : kind = .strong ∨ kind = .emphasis ∨ kind = .strikethrough)
      (hchildren : ∀ node ∈ children, WellFormed node) : WellFormed { kind, children }
  | link (href : Option Text) {children : List Inline}
      (hchildren : ∀ node ∈ children, WellFormed node) :
      WellFormed { kind := .link, children, href }
  | image (text : Text) {children : List Inline}
      (hchildren : ∀ node ∈ children, WellFormed node) :
      WellFormed { kind := .other "image", text, children }
  | other {name : String} {text : Text} {children : List Inline} (hname : name ∉ knownNames)
      (hmark : name = "html_inline" → occursIn checkboxMark text = false)
      (hone : text = [] ∨ children = []) (hchildren : ∀ node ∈ children, WellFormed node) :
      WellFormed { kind := .other name, text, children }

end Inline

mutual

/-- The tokens of a node. -/
def Inline.tokens (asLeaf : String → Bool) : Inline → List Token
  | ⟨kind, text, children, href, checked⟩ =>
      match kind with
      | .text => [.leaf "text" text]
      | .codeSpan => [.leaf "code_inline" text]
      | .softBreak => [.leaf "softbreak"]
      | .hardBreak => [.leaf "hardbreak"]
      | .checkbox => [.leaf "html_inline" (Inline.checkboxSource checked)]
      | .strong | .emphasis | .strikethrough | .link =>
          Token.wrap kind.name (inlineTokens asLeaf children) [] href
      | .other name =>
          let inside := inlineTokens asLeaf children
          if name = "image" then [{ name, content := text, children := inside }]
          else Token.foreign asLeaf name text inside

/-- The tokens of nodes, one after the other. -/
def inlineTokens (asLeaf : String → Bool) : List Inline → List Token
  | [] => []
  | node :: rest => node.tokens asLeaf ++ inlineTokens asLeaf rest

end

/-! ## Folding -/

namespace InlineStack

@[simp]
theorem extend_nil (stack : InlineStack) : stack.extend [] = stack := by
  rcases stack with ⟨_ | ⟨frame, outer⟩, nodes⟩
  · simp [extend]
  · simp [extend]

@[simp]
theorem extend_extend (stack : InlineStack) (first second : List Inline) :
    (stack.extend first).extend second = stack.extend (first ++ second) := by
  rcases stack with ⟨_ | ⟨frame, outer⟩, nodes⟩
  · simp [extend]
  · simp [extend]

/-- A container that is closed again becomes one node. -/
theorem pop_extend_push (stack : InlineStack) (kind : Inline.Kind) (href : Option Text)
    (children : List Inline) :
    ((stack.push kind href).extend children).pop = stack.extend [{ kind, children, href }] := by
  simp [push, extend, pop]

/-- Whether tokens add exactly the given nodes, whatever is open around them and whatever
follows. -/
def Adds (tokens : List Token) (nodes : List Inline) : Prop :=
  ∀ (stack : InlineStack) (rest : List Token),
    stack.run (tokens ++ rest) = (stack.extend nodes).run rest

theorem adds_nil : Adds [] [] := by
  intro stack rest
  rw [List.nil_append, extend_nil]

theorem Adds.append {first second : List Token} {nodes others : List Inline}
    (hfirst : Adds first nodes) (hsecond : Adds second others) :
    Adds (first ++ second) (nodes ++ others) := by
  intro stack rest
  rw [List.append_assoc, hfirst, hsecond, extend_extend]

/-- A token that neither opens nor closes a container adds its own node, unless it is empty text.
-/
theorem adds_token {token : Token} {node : Inline} (hnode : Inline.ofToken token = node)
    (hnesting : token.nesting = 0) (htext : token.name = "text" → token.content ≠ []) :
    Adds [token] [node] := by
  intro stack rest
  rw [← hnode, List.singleton_append, run, if_neg (by simp [hnesting]), if_neg (by simp [hnesting]),
    if_neg (by simpa using htext)]

/-- The tokens of a container add one node, with what they add inside as its children. -/
theorem Adds.wrap {inside : List Token} {children : List Inline} (hinside : Adds inside children)
    (name : String) (href : Option Text) :
    Adds (Token.wrap name inside [] href)
      [{ kind := .ofName name, children
         href := if Inline.Kind.ofName name = .link then href else none }] := by
  intro stack rest
  rw [Token.wrap, List.cons_append, List.cons_append, List.append_assoc, List.singleton_append,
    run, if_pos rfl]
  simp only [Token.baseName_open]
  rw [hinside, run, Token.closes, if_neg (by simp), if_pos rfl, pop_extend_push]

end InlineStack

namespace Inline

open InlineStack

theorem Kind.ofName_of_unknown {name : String} (hname : name ∉ knownNames) :
    Kind.ofName name = .other name := by
  simp only [knownNames, List.mem_cons, List.not_mem_nil, or_false, not_or] at hname
  unfold Kind.ofName
  split
  all_goals simp_all

/-- A token with an unknown name keeps its name and its text. -/
theorem ofToken_unknown {name : String} {text : Text} (hname : name ∉ knownNames)
    (hmark : name = "html_inline" → occursIn checkboxMark text = false) :
    ofToken (.leaf name text) = { kind := .other name, text } := by
  have hkind := Kind.ofName_of_unknown hname
  simp only [knownNames, List.mem_cons, List.not_mem_nil, or_false, not_or] at hname
  have hcheckbox : ¬ (decide (name = "html_inline") && occursIn checkboxMark text) = true := by
    simpa using hmark
  simp [Token.leaf, ofToken, hname, hcheckbox, hkind]

/-- A node of an unknown kind is read back, whichever way it was written. -/
theorem adds_foreign (asLeaf : String → Bool) {name : String} {text : Text}
    {inside : List Token} {children : List Inline} (hname : name ∉ knownNames)
    (hmark : name = "html_inline" → occursIn checkboxMark text = false)
    (hone : text = [] ∨ children = []) (hinside : Adds inside children)
    (hnone : inside = [] → children = []) :
    Adds (Token.foreign asLeaf name text inside) [{ kind := .other name, text, children }] := by
  have hleaf : Adds [Token.leaf name text] [{ kind := .other name, text }] := by
    refine adds_token (ofToken_unknown hname hmark) rfl fun htext => absurd htext ?_
    rintro rfl
    simp [knownNames] at hname
  have hwrap := hinside.wrap name none
  rw [Kind.ofName_of_unknown hname, ite_self] at hwrap
  rcases Token.foreign_cases hone hnone with ⟨rfl, htokens⟩ | ⟨rfl, htokens⟩
  · rw [htokens]
    exact hwrap
  · rw [htokens]
    exact hleaf

theorem tokens_ne_nil (asLeaf : String → Bool) (node : Inline) : node.tokens asLeaf ≠ [] := by
  obtain ⟨kind, text, children, href, checked⟩ := node
  cases kind with
  | other name =>
      simp only [tokens, Token.foreign]
      split
      · simp
      · split
        · simp [Token.wrap]
        · simp
  | _ => simp [tokens, Token.wrap]

end Inline

open InlineStack in
theorem adds_inlineTokens {asLeaf : String → Bool} {nodes : List Inline}
    (hnodes : ∀ node ∈ nodes, Adds (node.tokens asLeaf) [node]) :
    Adds (inlineTokens asLeaf nodes) nodes := by
  induction nodes with
  | nil => exact adds_nil
  | cons node rest ih =>
      exact (hnodes node List.mem_cons_self).append
        (ih fun other hmem => hnodes other (List.mem_cons_of_mem _ hmem))

theorem eq_nil_of_inlineTokens_eq_nil {asLeaf : String → Bool} {nodes : List Inline}
    (hnone : inlineTokens asLeaf nodes = []) : nodes = [] := by
  cases nodes with
  | nil => rfl
  | cons node rest =>
      rw [inlineTokens, List.append_eq_nil_iff] at hnone
      exact absurd hnone.1 (node.tokens_ne_nil asLeaf)

theorem InlineStack.Adds.ofTokens_eq {tokens : List Token} {nodes : List Inline}
    (hadds : Adds tokens nodes) : Inline.ofTokens tokens = nodes := by
  have hrun := hadds {} []
  rw [List.append_nil, run] at hrun
  rw [Inline.ofTokens, hrun]
  simp [extend, dissolve, openNodes]

/-- The source of a checkbox tells whether it is ticked. -/
theorem Inline.ofToken_checkbox (checked : Bool) :
    ofToken (.leaf "html_inline" (checkboxSource checked)) = { kind := .checkbox, checked } := by
  -- There are two sources, and both are searched for the two marks.
  have hmark : occursIn checkboxMark (checkboxSource checked) = true := by
    cases checked
    all_goals decide +kernel
  have hticked : occursIn tickedMark (checkboxSource checked) = checked := by
    cases checked
    all_goals decide +kernel
  simp [Token.leaf, ofToken, hmark, hticked]

/-- The tokens of a well-formed node add this node and leave what is open around it alone. -/
theorem Inline.WellFormed.adds {node : Inline} (hnode : node.WellFormed)
    (asLeaf : String → Bool) : InlineStack.Adds (node.tokens asLeaf) [node] := by
  induction hnode with
  | text hne => exact InlineStack.adds_token rfl rfl fun _ => hne
  | code text => exact InlineStack.adds_token rfl rfl (by simp [Token.leaf])
  | softBreak => exact InlineStack.adds_token rfl rfl (by simp [Token.leaf])
  | hardBreak => exact InlineStack.adds_token rfl rfl (by simp [Token.leaf])
  | checkbox checked =>
      exact InlineStack.adds_token (Inline.ofToken_checkbox checked) rfl (by simp [Token.leaf])
  | styled hkind _ ih =>
      have hwrap := (adds_inlineTokens ih).wrap
      rcases hkind with rfl | rfl | rfl
      · exact hwrap "strong" none
      · exact hwrap "em" none
      · exact hwrap "s" none
  | link href _ ih => exact (adds_inlineTokens ih).wrap "link" href
  | @image text children _ ih =>
      have hinside := (adds_inlineTokens ih).ofTokens_eq
      have himage : Inline.ofToken
          { name := "image", content := text, children := inlineTokens asLeaf children } =
            { kind := .other "image", text, children } := by
        rw [Inline.ofTokens] at hinside
        simp [Inline.ofToken, hinside]
      exact InlineStack.adds_token himage rfl (by simp)
  | @other name text children hname hmark hone _ ih =>
      have himage : name ≠ "image" := by
        rintro rfl
        simp [Inline.knownNames] at hname
      rw [Inline.tokens]
      simp only [if_neg himage]
      exact Inline.adds_foreign asLeaf hname hmark hone (adds_inlineTokens ih)
        eq_nil_of_inlineTokens_eq_nil

/-- Folding the tokens of well-formed nodes gives the nodes back. -/
theorem Inline.ofTokens_inlineTokens {nodes : List Inline}
    (hnodes : ∀ node ∈ nodes, node.WellFormed) (asLeaf : String → Bool) :
    Inline.ofTokens (inlineTokens asLeaf nodes) = nodes :=
  (adds_inlineTokens fun node hmem => (hnodes node hmem).adds asLeaf).ofTokens_eq

end DocPress
