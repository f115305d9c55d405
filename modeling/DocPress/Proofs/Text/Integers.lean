import Mathlib.Data.List.TakeWhile
import DocPress.Text.Integer

/-!
# Reading integers that were written

An integer in decimal, with a minus sign where it needs one, is read as that integer. The
only limit is the number of digits.
-/

namespace DocPress

theorem toNat_of_isDigit {c : Char} (hdigit : c.isDigit) :
    0x30 ≤ c.toNat ∧ c.toNat < 0x30 + 10 := by
  simp only [Char.isDigit, Bool.and_eq_true, decide_eq_true_eq] at hdigit
  exact ⟨hdigit.1, Nat.lt_succ_of_le hdigit.2⟩

theorem digitValue?_of_isDigit {c : Char} (hdigit : c.isDigit) :
    digitValue? c = some (c.toNat - '0'.toNat) := by
  have hrange := toNat_of_isDigit hdigit
  rw [digitValue?, decimalZeros, List.findSome?_cons, if_pos (by simpa using hrange)]
  rfl

/-- A run of digits has no low line in it, so every character gives one value. -/
theorem digitRun?_of_isDigit {digits : Text} (hne : digits ≠ [])
    (hdigits : ∀ c ∈ digits, c.isDigit) :
    digitRun? digits = some (digits.map fun c => c.toNat - '0'.toNat) := by
  induction digits with
  | nil => exact absurd rfl hne
  | cons c rest ih =>
      have hvalue := digitValue?_of_isDigit (hdigits c List.mem_cons_self)
      cases rest with
      | nil => simp [digitRun?, hvalue]
      | cons next others =>
          have hnext : next ≠ '_' := by
            rintro rfl
            exact absurd (hdigits '_' (by simp)) (by decide)
          have hrest := ih (List.cons_ne_nil _ _) fun other hmem =>
            hdigits other (List.mem_cons_of_mem _ hmem)
          rw [digitRun?, hvalue, hrest]
          · rfl
          · simp
          · rintro _ ⟨⟩
            exact hnext rfl

theorem isDigit_of_mem_natText {n : Nat} {c : Char} (hmem : c ∈ natText n) : c.isDigit := by
  rw [natText, Nat.toList_repr] at hmem
  exact Nat.isDigit_of_mem_toDigits (by decide) (by decide) hmem

theorem natText_ne_nil (n : Nat) : natText n ≠ [] := by
  rw [natText, Nat.toList_repr]
  exact Nat.toDigits_ne_nil

/-- A natural number is read from its decimal text. -/
theorem readNatural?_natText {n : Nat} (hlength : (natText n).length ≤ maxIntegerDigits) :
    readNatural? (natText n) = some n := by
  have hvalue : ofDigitValues ((natText n).map fun c => c.toNat - '0'.toNat) = n := by
    rw [ofDigitValues, List.foldl_map, natText, Nat.toList_repr]
    exact Nat.ofDigitChars_ten_toDigits
  rw [readNatural?, digitRun?_of_isDigit (natText_ne_nil n) fun c => isDigit_of_mem_natText]
  change (if _ ≤ _ then _ else _) = _
  rw [List.length_map, if_pos hlength, hvalue]

/-- A text without margins is trimmed to itself. -/
theorem trimWhere_eq_self {isMargin : Char → Bool} {text : Text}
    (htext : ∀ c ∈ text, isMargin c = false) : trimWhere isMargin text = text := by
  have hstays {kept : Text} (hkept : ∀ c ∈ kept, isMargin c = false) :
      kept.dropWhile isMargin = kept :=
    List.dropWhile_eq_self_iff.mpr fun hlength => by simp [hkept _ (List.getElem_mem hlength)]
  rw [trimWhere, hstays htext, hstays fun c hmem => htext c (List.mem_reverse.mp hmem),
    List.reverse_reverse]

theorem isIntegerMargin_of_isDigit {c : Char} (hdigit : c.isDigit) :
    isIntegerMargin c = false := by
  have hrange := toNat_of_isDigit hdigit
  simp [isIntegerMargin, isBlank, blankRanges, CodeRanges.contains]
  omega

/-- An integer is written by digits, with a minus sign before them if at all. -/
theorem isDigit_or_eq_of_mem_intText {n : Int} {c : Char} (hmem : c ∈ intText n) :
    c.isDigit ∨ c = '-' := by
  cases n with
  | ofNat n => exact .inl (isDigit_of_mem_natText hmem)
  | negSucc n =>
      rcases List.mem_cons.mp hmem with rfl | hmem
      · exact .inr rfl
      · exact .inl (isDigit_of_mem_natText hmem)

/-- An integer is read from its decimal text. -/
theorem readInteger?_intText {n : Int} (hlength : (natText n.natAbs).length ≤ maxIntegerDigits) :
    readInteger? (intText n) = some n := by
  have hmargins : ∀ c ∈ intText n, isIntegerMargin c = false := by
    intro c hmem
    rcases isDigit_or_eq_of_mem_intText hmem with hdigit | rfl
    · exact isIntegerMargin_of_isDigit hdigit
    · decide
  have hread := readNatural?_natText hlength
  rw [readInteger?, trimWhere_eq_self hmargins]
  cases n with
  -- A text of digits is not taken for one with a sign.
  | ofNat n =>
      rw [intText]
      split
      next digits htext =>
        have hdigit := isDigit_of_mem_natText (htext ▸ List.mem_cons_self)
        exact absurd hdigit (by decide)
      next digits htext =>
        have hdigit := isDigit_of_mem_natText (htext ▸ List.mem_cons_self)
        exact absurd hdigit (by decide)
      next => exact congrArg (Option.map Int.ofNat) hread
  | negSucc n =>
      change readNatural? (natText (n + 1)) = some (n + 1) at hread
      simp [intText, hread, Int.negSucc_eq]

end DocPress
