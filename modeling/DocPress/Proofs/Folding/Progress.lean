import DocPress.Node.OfTokens
import DocPress.Proofs.Lists

/-!
# How folding moves through the stream

Folding goes through the token stream once, whatever the stream is. A loop that reads what is
inside a container begins behind the token that opens it, and the loop around it goes on where
that loop stopped, which is never before its beginning. So each token is taken by one step of
one loop at most, and there are no more steps than tokens.

A container whose closing token never comes ends with the stream. The place after it counts as
passed when it was to hold inline content, and that is as far as positions go.
-/

namespace DocPress

/-- The place in a stream before which the given number of tokens lies. -/
def cursorAt (tokens : List Token) (position : Nat) : Cursor :=
  ⟨position, tokens.drop position⟩

/-- Whether a token closes inline content. The loop that reads the content ends before it and
takes no step at it. -/
def Token.EndsContent (token : Token) : Prop :=
  token.name = "heading_close" ∨ token.name = "paragraph_close"

/-! ## Steps of the loops -/

/-- The positions at which the loop that reads inline content takes a step. -/
def contentSteps (close : String) (position : Nat) : List Token → List Nat
  | [] => []
  | token :: rest =>
      if token.name = close then [] else position :: contentSteps close (position + 1) rest

/-- The positions at which the loop that reads a table takes a step. -/
def tableSteps (position : Nat) : List Token → List Nat
  | [] => []
  | token :: rest =>
      if token.name = "table_close" then [position] else position :: tableSteps (position + 1) rest

mutual

/-- The positions at which a step is taken while the block of a token is read. A block of one
token takes no further step. -/
def blockSteps (token : Token) (start : Cursor) : List Nat :=
  match token.role with
  | .heading => contentSteps "heading_close" start.position start.rest
  | .paragraph => contentSteps "paragraph_close" start.position start.rest
  | .list _ => itemsSteps (Token.closingName token.name) start
  | .quote => blocksSteps (some "blockquote_close") start
  | .table => tableSteps start.position start.rest
  | .container => blocksSteps (some (Token.closingName token.name)) start
  | .code | .rule | .close | .leaf => []
termination_by (start.rest.length, 1)

/-- The positions at which a step is taken while blocks are read: the step at a token, then
those inside its block, then those of the blocks after it. -/
def blocksSteps (close : Option String) (start : Cursor) : List Nat :=
  match start with
  | ⟨_, []⟩ => []
  | ⟨position, token :: rest⟩ =>
      if close = some token.name then [position]
      else
        let block := foldBlock token ⟨position + 1, rest⟩
        position :: (blockSteps token ⟨position + 1, rest⟩ ++ blocksSteps close block.next)
termination_by (start.rest.length, 0)
decreasing_by
  · exact Prod.Lex.left _ _ (Nat.lt_succ_self _)
  · exact Prod.Lex.left _ _ (Nat.lt_succ_of_le block.next_le)

/-- The positions at which a step is taken while the items of a list are read. -/
def itemsSteps (close : String) (start : Cursor) : List Nat :=
  match start with
  | ⟨_, []⟩ => []
  | ⟨position, token :: rest⟩ =>
      if token.name = close then [position]
      else if token.name = "list_item_open" then
        let item := foldBlocks (some "list_item_close") ⟨position + 1, rest⟩
        position :: (blocksSteps (some "list_item_close") ⟨position + 1, rest⟩ ++
          itemsSteps close item.next)
      else position :: itemsSteps close ⟨position + 1, rest⟩
termination_by (start.rest.length, 0)
decreasing_by
  · exact Prod.Lex.left _ _ (Nat.lt_succ_self _)
  · exact Prod.Lex.left _ _ (Nat.lt_succ_of_le item.next_le)
  · exact Prod.Lex.left _ _ (Nat.lt_succ_self _)

end

/-! ## Parts of the stream -/

/-- Whether reading from one place on leads to another one, with steps at the given positions
on the way: these ascend, and only tokens that close inline content are passed without one. -/
structure Passes (tokens : List Token) (position : Nat) (next : Cursor) (steps : List Nat) :
    Prop where
  next_eq : next = cursorAt tokens next.position
  le_next : position ≤ next.position
  next_le : next.position ≤ tokens.length + 1
  ascending : steps.Pairwise (· < ·)
  within : ∀ step ∈ steps, position ≤ step ∧ step < next.position ∧ step < tokens.length
  covers : ∀ place : Fin tokens.length, position ≤ place → place < next.position →
    place.val ∈ steps ∨ tokens[place].EndsContent

namespace Passes

variable {tokens : List Token} {position : Nat}

theorem stay (hposition : position ≤ tokens.length + 1) :
    Passes tokens position (cursorAt tokens position) [] where
  next_eq := rfl
  le_next := Nat.le_refl _
  next_le := hposition
  ascending := .nil
  within := by simp
  covers place hle hlt := absurd hlt (Nat.not_lt_of_le hle)

/-- Past the end of the stream no token is passed. -/
theorem stepOut (hposition : tokens.length = position) :
    Passes tokens position ⟨position + 1, []⟩ [] where
  next_eq := by
    rw [cursorAt, List.drop_eq_nil_of_le]
    exact Nat.le_succ_of_le (Nat.le_of_eq hposition)
  le_next := Nat.le_succ _
  next_le := Nat.succ_le_succ (Nat.le_of_eq hposition.symm)
  ascending := .nil
  within := by simp
  covers place hle _ := absurd place.isLt (Nat.not_lt_of_le (hposition ▸ hle))

/-- A token is taken by a step at its own position. -/
theorem step (hposition : position < tokens.length) :
    Passes tokens position (cursorAt tokens (position + 1)) [position] where
  next_eq := rfl
  le_next := Nat.le_succ _
  next_le := Nat.succ_le_succ (Nat.le_of_lt hposition)
  ascending := List.pairwise_singleton _ _
  within := by simpa [cursorAt] using hposition
  covers place hle hlt :=
    .inl (List.mem_singleton.mpr (Nat.le_antisymm (Nat.le_of_lt_succ hlt) hle))

/-- A token that closes inline content is passed without a step. -/
theorem skip (hposition : position < tokens.length) (hends : tokens[position].EndsContent) :
    Passes tokens position (cursorAt tokens (position + 1)) [] where
  next_eq := rfl
  le_next := Nat.le_succ _
  next_le := Nat.succ_le_succ (Nat.le_of_lt hposition)
  ascending := .nil
  within := by simp
  covers place hle hlt := by
    obtain rfl : place = ⟨position, hposition⟩ :=
      Fin.ext (Nat.le_antisymm (Nat.le_of_lt_succ hlt) hle)
    exact .inr hends

/-- Parts that follow each other make one part, with the steps of both. -/
theorem append {middle next : Cursor} {first second : List Nat}
    (hfirst : Passes tokens position middle first)
    (hsecond : Passes tokens middle.position next second) :
    Passes tokens position next (first ++ second) where
  next_eq := hsecond.next_eq
  le_next := Nat.le_trans hfirst.le_next hsecond.le_next
  next_le := hsecond.next_le
  ascending := by
    refine List.pairwise_append.mpr ⟨hfirst.ascending, hsecond.ascending, ?_⟩
    intro earlier hearlier later hlater
    exact Nat.lt_of_lt_of_le (hfirst.within earlier hearlier).2.1 (hsecond.within later hlater).1
  within place hmem := by
    rcases List.mem_append.mp hmem with hmem | hmem
    · obtain ⟨hle, hlt, hlength⟩ := hfirst.within place hmem
      exact ⟨hle, Nat.lt_of_lt_of_le hlt hsecond.le_next, hlength⟩
    · obtain ⟨hle, hlt, hlength⟩ := hsecond.within place hmem
      exact ⟨Nat.le_trans hfirst.le_next hle, hlt, hlength⟩
  covers place hle hlt := by
    rw [List.mem_append]
    rcases Nat.lt_or_ge place middle.position with hbefore | hafter
    · exact (hfirst.covers place hle hbefore).imp_left .inl
    · exact (hsecond.covers place hafter hlt).imp_left .inr

/-- Reading that begins behind a token ends behind it. -/
theorem moves_on {next : Cursor} {steps : List Nat}
    (hpasses : Passes tokens (position + 1) next steps) :
    position < next.position ∧ next.position ≤ tokens.length + 1 ∧
      next.rest = tokens.drop next.position :=
  ⟨hpasses.le_next, hpasses.next_le, congrArg Cursor.rest hpasses.next_eq⟩

end Passes

section Reading

variable {tokens rest : List Token} {token : Token} {position : Nat}

/-- Where tokens are left, the first of them is the one at this position. -/
theorem getElem_of_drop_eq_cons (hdrop : tokens.drop position = token :: rest) :
    ∃ hposition : position < tokens.length,
      tokens[position] = token ∧ rest = tokens.drop (position + 1) := by
  have hposition : position < tokens.length := by
    refine Nat.lt_of_not_le fun hle => ?_
    rw [List.drop_eq_nil_of_le hle] at hdrop
    exact List.cons_ne_nil _ _ hdrop.symm
  rw [List.drop_eq_getElem_cons hposition] at hdrop
  obtain ⟨htoken, hrest⟩ := List.cons.inj hdrop
  exact ⟨hposition, htoken, hrest.symm⟩

/-- Inline content is read token by token, up to one that closes it. -/
theorem contentUntil_passes {close : String}
    (hclose : close = "heading_close" ∨ close = "paragraph_close")
    (hposition : position ≤ tokens.length) :
    Passes tokens position (contentUntil close position (tokens.drop position)).2
      (contentSteps close position (tokens.drop position)) := by
  induction hdrop : tokens.drop position generalizing position with
  | nil => exact .stepOut (Nat.le_antisymm (List.drop_eq_nil_iff.mp hdrop) hposition)
  | cons token rest ih =>
      obtain ⟨hlt, rfl, rfl⟩ := getElem_of_drop_eq_cons hdrop
      rw [contentUntil, contentSteps]
      split
      next hname => exact .skip hlt (hclose.imp hname.trans hname.trans)
      next => exact (Passes.step hlt).append (ih hlt rfl)

/-- A table is read token by token, up to the one that closes it and with a step there. -/
theorem tableRows_passes (table : TableRows) (hposition : position ≤ tokens.length) :
    Passes tokens position (table.run position (tokens.drop position)).2
      (tableSteps position (tokens.drop position)) := by
  induction hdrop : tokens.drop position generalizing table position with
  | nil =>
      rw [TableRows.run, tableSteps, ← hdrop]
      exact .stay (Nat.le_succ_of_le hposition)
  | cons token rest ih =>
      obtain ⟨hlt, rfl, rfl⟩ := getElem_of_drop_eq_cons hdrop
      rw [TableRows.run, tableSteps]
      split
      next => exact .step hlt
      next => exact (Passes.step hlt).append (ih _ hlt rfl)

end Reading

/-! ## Blocks -/

section Blocks

variable {tokens : List Token}

-- The recursion is that of the functions: the place moves on, or a block is opened where reading
-- stands. That a block ends behind its token is `hfurther` in the steps to the next one.
mutual

/-- The block of a token is read from behind this token on. -/
theorem foldBlock_passes (token : Token) {position : Nat} (hposition : position ≤ tokens.length) :
    Passes tokens position (foldBlock token (cursorAt tokens position)).next
      (blockSteps token (cursorAt tokens position)) := by
  have hstay := Nat.le_succ_of_le hposition
  rw [foldBlock, blockSteps]
  cases token.role with
  | heading => exact contentUntil_passes (.inl rfl) hposition
  | paragraph => exact contentUntil_passes (.inr rfl) hposition
  | list ordered => exact foldItems_passes _ hstay
  | quote | container => exact foldBlocks_passes _ hstay
  | table => exact tableRows_passes {} hposition
  | code | rule | close | leaf => exact .stay hstay
termination_by (tokens.length + 1 - position, 1)

/-- Blocks are read one behind the other, each from where the one before it ends. -/
theorem foldBlocks_passes (close : Option String) {position : Nat}
    (hposition : position ≤ tokens.length + 1) :
    Passes tokens position (foldBlocks close (cursorAt tokens position)).next
      (blocksSteps close (cursorAt tokens position)) := by
  have hstay : Passes tokens position (cursorAt tokens position) [] := .stay hposition
  rw [cursorAt] at hstay ⊢
  cases hdrop : tokens.drop position with
  | nil =>
      rw [foldBlocks, blocksSteps]
      rwa [hdrop] at hstay
  | cons token rest =>
      obtain ⟨hlt, rfl, rfl⟩ := getElem_of_drop_eq_cons hdrop
      rw [foldBlocks, blocksSteps]
      split
      next => exact .step hlt
      next =>
        -- The block is read first; the others begin where it ends.
        have hblock := foldBlock_passes tokens[position] hlt
        have hfurther := hblock.le_next
        have hlater := foldBlocks_passes close hblock.next_le
        rw [← hblock.next_eq] at hlater
        exact (Passes.step hlt).append (hblock.append hlater)
termination_by (tokens.length + 1 - position, 0)
decreasing_by
  · exact Prod.Lex.left _ _ (by omega)
  · exact Prod.Lex.left _ _ (by omega)

/-- Items are read like blocks, and tokens between them are taken one by one. -/
theorem foldItems_passes (close : String) {position : Nat}
    (hposition : position ≤ tokens.length + 1) :
    Passes tokens position (foldItems close (cursorAt tokens position)).next
      (itemsSteps close (cursorAt tokens position)) := by
  have hstay : Passes tokens position (cursorAt tokens position) [] := .stay hposition
  rw [cursorAt] at hstay ⊢
  cases hdrop : tokens.drop position with
  | nil =>
      rw [foldItems, itemsSteps]
      rwa [hdrop] at hstay
  | cons token rest =>
      obtain ⟨hlt, rfl, rfl⟩ := getElem_of_drop_eq_cons hdrop
      have hafter : position + 1 ≤ tokens.length + 1 := Nat.succ_le_succ (Nat.le_of_lt hlt)
      rw [foldItems, itemsSteps]
      split
      next => exact .step hlt
      next =>
        split
        next =>
          have hitem := foldBlocks_passes (some "list_item_close") hafter
          have hfurther := hitem.le_next
          have hlater := foldItems_passes close hitem.next_le
          rw [← hitem.next_eq] at hlater
          exact (Passes.step hlt).append (hitem.append hlater)
        next =>
          have hlater := foldItems_passes close hafter
          exact (Passes.step hlt).append hlater
termination_by (tokens.length + 1 - position, 0)
decreasing_by
  · exact Prod.Lex.left _ _ (by omega)
  · exact Prod.Lex.left _ _ (by omega)
  · exact Prod.Lex.left _ _ (by omega)

end

/-- Blocks outside all containers are read up to the end of the stream. -/
theorem foldBlocks_none_rest (start : Cursor) : (foldBlocks none start).next.rest = [] := by
  induction hlength : start.rest.length using Nat.strongRecOn generalizing start with
  | ind length ih =>
      obtain ⟨position, rest⟩ := start
      cases rest with
      | nil => rw [foldBlocks]
      | cons token rest =>
          rw [foldBlocks, if_neg (by simp)]
          have hle := (foldBlock token ⟨position + 1, rest⟩).next_le
          exact ih _ (hlength ▸ Nat.lt_succ_of_le hle) _ rfl

end Blocks

/-! ## The whole stream -/

/-- The positions at which a step is taken while the blocks of a whole stream are read. -/
def streamSteps (tokens : List Token) : List Nat :=
  blocksSteps none ⟨0, tokens⟩

/-- The whole stream is one part that begins at its first token. -/
theorem stream_passes (tokens : List Token) :
    Passes tokens 0 (foldBlocks none ⟨0, tokens⟩).next (streamSteps tokens) :=
  foldBlocks_passes none (Nat.zero_le _)

/-- Reading the whole stream ends at its end, not before. -/
theorem length_le_next (tokens : List Token) :
    tokens.length ≤ (foldBlocks none ⟨0, tokens⟩).next.position := by
  have hrest := foldBlocks_none_rest ⟨0, tokens⟩
  rw [(stream_passes tokens).next_eq] at hrest
  exact List.drop_eq_nil_iff.mp hrest

/-- Reading what is inside a container, be it inline content, the rows of a table, items or
blocks, up to whatever closing token, ends behind the token that opens it and at most one past
the end of the stream. A whole stream is read to its end. Its tokens are taken by one step each
and in their order, except that tokens which close inline content may be passed without one. So
there are no more steps than tokens. -/
theorem folding_moves_on (tokens : List Token) :
    (∀ (place : Fin tokens.length) (close : String) (table : TableRows),
      let inside := cursorAt tokens (place + 1)
      ∀ next ∈ [(contentUntil "heading_close" inside.position inside.rest).2,
          (contentUntil "paragraph_close" inside.position inside.rest).2,
          (table.run inside.position inside.rest).2, (foldItems close inside).next,
          (foldBlocks (some close) inside).next, (foldBlock tokens[place] inside).next],
        place < next.position ∧ next.position ≤ tokens.length + 1 ∧
          next.rest = tokens.drop next.position) ∧
    (streamSteps tokens).length ≤ tokens.length ∧ (streamSteps tokens).Pairwise (· < ·) ∧
    (∀ place : Fin tokens.length, place.val ∈ streamSteps tokens ∨ tokens[place].EndsContent) ∧
    tokens.length ≤ (foldBlocks none ⟨0, tokens⟩).next.position ∧
    (foldBlocks none ⟨0, tokens⟩).next.position ≤ tokens.length + 1 := by
  have hstream := stream_passes tokens
  have hend := length_le_next tokens
  refine ⟨?_, ?_, hstream.ascending, ?_, hend, hstream.next_le⟩
  · intro place close table
    have hplace : place + 1 ≤ tokens.length := place.isLt
    have hinside : place + 1 ≤ tokens.length + 1 := Nat.le_succ_of_le hplace
    simp only [List.forall_mem_cons, List.not_mem_nil, false_implies, implies_true, and_true]
    exact ⟨(contentUntil_passes (.inl rfl) hplace).moves_on,
      (contentUntil_passes (.inr rfl) hplace).moves_on, (tableRows_passes table hplace).moves_on,
      (foldItems_passes close hinside).moves_on, (foldBlocks_passes (some close) hinside).moves_on,
      (foldBlock_passes tokens[place] hplace).moves_on⟩
  · apply length_le_of_ascending hstream.ascending
    intro step hmem
    exact (hstream.within step hmem).2.2
  · intro place
    exact hstream.covers place (Nat.zero_le _) (Nat.lt_of_lt_of_le place.isLt hend)

end DocPress
