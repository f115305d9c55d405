import DocPress.Node.OfTokens
import DocPress.Proofs.Lines

/-!
# Names of tokens

A container is written by two tokens whose names are one name with the ending for opening
and with the ending for closing. Folding finds the second name from the first one, and the
kind of the container too. A name for closing is none of those that begin a block.
-/

namespace DocPress

/-! ## Patterns at the end of a text -/

/-- A pattern that does not occur in a text, and whose first character comes once, is not
found before the end of the text either when it is put there. -/
theorem dropLeading?_append_self {first : Char} {tail text : Text} (hfirst : first ∉ tail)
    (hne : text ≠ []) (habsent : dropLeading? (first :: tail) text = none) :
    dropLeading? (first :: tail) (text ++ first :: tail) = none := by
  obtain ⟨c, rest, rfl⟩ := List.exists_cons_of_ne_nil hne
  cases hfound : dropLeading? (first :: tail) (c :: rest ++ first :: tail) with
  | none => rfl
  | some after =>
      rw [dropLeading?_eq_some_iff] at hfound
      -- Either the pattern is a beginning of the text, or it overlaps with itself.
      rcases List.append_eq_append_iff.mp hfound with ⟨overlap, hpattern, hafter⟩ | ⟨more, htext, _⟩
      · cases overlap with
        | nil =>
            rw [List.append_nil] at hpattern
            have hwhole : c :: rest = first :: tail ++ [] := by rw [hpattern, List.append_nil]
            rw [dropLeading?_eq_some_iff.mpr hwhole] at habsent
            exact absurd habsent (by simp)
        | cons d others =>
            obtain ⟨-, htail⟩ := List.cons.inj hpattern
            obtain ⟨hd, -⟩ := List.cons.inj hafter
            exact absurd (by rw [htail, hd]; simp) hfirst
      · rw [dropLeading?_eq_some_iff.mpr htext] at habsent
        exact absurd habsent (by simp)

/-- Such a pattern is replaced at the end of the text, and nowhere else. -/
theorem replaceAll_append_self {first : Char} {tail text : Text} (hfirst : first ∉ tail)
    (habsent : occursIn (first :: tail) text = false) (replacement : Text) :
    replaceAll (first :: tail) replacement (text ++ first :: tail) = text ++ replacement := by
  induction text with
  | nil =>
      have hwhole : dropLeading? (first :: tail) (first :: tail) = some [] :=
        dropLeading?_eq_some_iff.mpr (List.append_nil _).symm
      rw [List.nil_append, replaceAll.eq_def]
      dsimp only
      split
      next after hfound =>
        obtain rfl : [] = after := Option.some.inj (hwhole.symm.trans hfound)
        rw [if_neg (by simp), replaceAll, List.append_nil]
        rfl
      next hfound => exact absurd (hwhole.symm.trans hfound) (by simp)
  | cons c rest ih =>
      rw [occursIn, Bool.or_eq_false_iff, Option.isSome_eq_false_iff, Option.isNone_iff_eq_none]
        at habsent
      have hnone := dropLeading?_append_self hfirst (List.cons_ne_nil c rest) habsent.1
      rw [List.cons_append, replaceAll.eq_def]
      rw [List.cons_append] at hnone
      dsimp only
      split
      next after hfound => exact absurd (hnone.symm.trans hfound) (by simp)
      next => rw [ih habsent.2, List.cons_append]

/-- A text that ends with a pattern has it in it. -/
theorem occursIn_append_self (pattern text : Text) : occursIn pattern (text ++ pattern) = true := by
  induction text with
  | nil =>
      cases pattern with
      | nil => rfl
      | cons first tail =>
          have hwhole : dropLeading? (first :: tail) (first :: tail) = some [] :=
            dropLeading?_eq_some_iff.mpr (List.append_nil _).symm
          simp [occursIn, hwhole]
  | cons c rest ih => rw [List.cons_append, occursIn, ih, Bool.or_true]

/-! ## Opening and closing -/

namespace Token

/-- The name for closing is found from the name for opening. -/
theorem closingName_open {name : String} (hname : occursIn openEnding name.toList = false) :
    closingName (name ++ "_open") = name ++ "_close" := by
  have hreplace := @replaceAll_append_self '_' "open".toList _ (by decide) hname closeEnding
  rw [closingName, String.toList_append]
  change String.ofList (replaceAll openEnding closeEnding (name.toList ++ openEnding)) = _
  rw [show openEnding = '_' :: "open".toList from rfl, hreplace, String.ofList_append,
    String.ofList_toList]
  rfl

/-- The name of a container is what stands before the ending for opening. -/
theorem baseName_open (name : String) : baseName (name ++ "_open") = name := by
  have hdrop : dropLeading? openEnding.reverse (name ++ "_open").toList.reverse =
      some name.toList.reverse := by
    rw [dropLeading?_eq_some_iff, String.toList_append, List.reverse_append]
    rfl
  rw [baseName, hdrop]
  simp

/-- Whether a name is none that closes a container. -/
def NeverCloses (name : String) : Prop :=
  ∀ base : String, name ≠ base ++ "_close"

/-- A name for opening is none for closing: the two end differently. -/
theorem neverCloses_open (name : String) : NeverCloses (name ++ "_open") := by
  intro base heq
  have hlast := congrArg (fun text : String => text.toList.getLast?) heq
  simp [String.toList_append] at hlast

theorem neverCloses_of_absent {name : String} (hname : occursIn closeEnding name.toList = false) :
    NeverCloses name := by
  rintro base rfl
  rw [String.toList_append, show "_close".toList = closeEnding from rfl, occursIn_append_self]
    at hname
  exact Bool.noConfusion hname

end Token

end DocPress
