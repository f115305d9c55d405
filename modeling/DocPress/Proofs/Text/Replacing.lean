import DocPress.Proofs.Lines

/-!
# Replacing a pattern

Replacing a pattern throughout a text changes nothing where the pattern does not occur.
Where it occurs and its replacement is shorter, the text gets shorter by the difference
at least once. A replacement can bring other patterns about, so nothing is said of what
occurs in the result.
-/

namespace DocPress

section ReplaceAll

variable {pattern replacement text : Text}

/-- A pattern that begins a text is replaced there. -/
theorem replaceAll_of_leading {rest : Text} (hne : pattern ≠ [])
    (hfound : dropLeading? pattern text = some rest) :
    replaceAll pattern replacement text = replacement ++ replaceAll pattern replacement rest := by
  have hlength := dropLeading?_length hfound
  have hpattern := List.length_pos_iff.mpr hne
  cases text with
  | nil => exact absurd hlength (by simp only [List.length_nil]; omega)
  | cons c others =>
      rw [replaceAll]
      split
      next after hafter =>
        obtain rfl := Option.some.inj (hfound.symm.trans hafter)
        rw [if_neg (Nat.ne_of_gt hpattern)]
      next hnone => exact absurd (hfound.symm.trans hnone) (by simp)

/-- Where a pattern does not begin, the character stays. -/
theorem replaceAll_cons_of_none {c : Char} {rest : Text}
    (hnone : dropLeading? pattern (c :: rest) = none) :
    replaceAll pattern replacement (c :: rest) = c :: replaceAll pattern replacement rest := by
  rw [replaceAll]
  split
  next after hfound => exact absurd (hnone.symm.trans hfound) (by simp)
  next => rfl

/-- Where a pattern does not occur, nothing is replaced. -/
theorem replaceAll_eq_self (hnot : ¬ pattern <:+: text) :
    replaceAll pattern replacement text = text := by
  fun_induction replaceAll pattern replacement text with
  | case1 => rfl
  | case2 c rest tail hfound hzero ih =>
      rw [ih fun h => hnot (h.trans (List.suffix_cons c rest).isInfix)]
  | case3 c rest tail hfound hpattern ih =>
      refine absurd ?_ hnot
      rw [dropLeading?_eq_some_iff.mp hfound]
      exact (List.prefix_append _ _).isInfix
  | case4 c rest hfound ih =>
      rw [ih fun h => hnot (h.trans (List.suffix_cons c rest).isInfix)]

/-- A text does not grow if the replacement is no longer than the pattern. -/
theorem length_replaceAll_le (hlength : replacement.length ≤ pattern.length) :
    (replaceAll pattern replacement text).length ≤ text.length := by
  fun_induction replaceAll pattern replacement text with
  | case1 => exact Nat.le_refl 0
  | case2 c rest tail hfound hzero ih => simpa using ih
  | case3 c rest tail hfound hpattern ih =>
      rw [dropLeading?_eq_some_iff.mp hfound, List.length_append, List.length_append]
      omega
  | case4 c rest hfound ih => simpa using ih

/-- Where a pattern occurs, at least one replacement is made. -/
theorem length_replaceAll_add_le {saved : Nat} (hne : pattern ≠ [])
    (hlength : replacement.length + saved ≤ pattern.length) (hoccurs : pattern <:+: text) :
    (replaceAll pattern replacement text).length + saved ≤ text.length := by
  fun_induction replaceAll pattern replacement text with
  | case1 => exact absurd (List.infix_nil.mp hoccurs) hne
  | case2 c rest tail hfound hzero ih => exact absurd (List.length_eq_zero_iff.mp hzero) hne
  | case3 c rest tail hfound hpattern ih =>
      -- This replacement saves enough; the others cannot lose it again.
      have hrest : (replaceAll pattern replacement tail).length ≤ tail.length :=
        length_replaceAll_le (by omega)
      rw [dropLeading?_eq_some_iff.mp hfound, List.length_append, List.length_append]
      omega
  | case4 c rest hfound ih =>
      rcases List.infix_cons_iff.mp hoccurs with ⟨tail, htail⟩ | hinfix
      · rw [dropLeading?_eq_some_iff.mpr htail.symm] at hfound
        exact absurd hfound (by simp)
      · have := ih hinfix
        simp only [List.length_cons]
        omega

/-- What was not in a text comes from the replacement. -/
theorem mem_replaceAll {c : Char} (hmem : c ∈ replaceAll pattern replacement text) :
    c ∈ text ∨ c ∈ replacement := by
  fun_induction replaceAll pattern replacement text with
  | case1 => exact .inl hmem
  | case2 first rest tail hfound hzero ih => grind
  | case3 first rest tail hfound hpattern ih =>
      rw [dropLeading?_eq_some_iff.mp hfound]
      grind
  | case4 first rest hfound ih => grind

end ReplaceAll

end DocPress
