import Mathlib.Data.List.Infix
import Mathlib.Data.List.Perm.Subperm

/-!
# Lists

Facts about lists of any kind that are used in several places: what comes last in joined
lists, on which side of a separator a part lies, and how many numbers can ascend below a
bound.
-/

namespace DocPress

variable {α : Type}

/-- What comes last in joined lists is what comes last in the second one, where the first one
stands in for it. -/
theorem getLastD_append (first second : List α) (fallback : α) :
    (first ++ second).getLastD fallback = second.getLastD (first.getLastD fallback) := by
  cases second with
  | nil => rw [List.append_nil, List.getLastD_nil]
  | cons next rest => simp [List.getLastD_eq_getLast?]

/-- A part without a separator lies on one side of it. -/
theorem infix_of_infix_append_cons {part first second : List α} {separator : α}
    (hpart : separator ∉ part) (hoccurs : part <:+: first ++ separator :: second) :
    part <:+: first ∨ part <:+: second := by
  obtain ⟨left, right, heq⟩ := hoccurs
  rcases List.append_eq_append_iff.mp heq with ⟨rest, hfirst, _⟩ | ⟨reach, hfront, hback⟩
  · exact .inl ⟨left, rest, hfirst.symm⟩
  · -- The part ends after the separator or right before it.
    rcases List.append_eq_append_iff.mp hfront with ⟨start, hfirst, hstart⟩ | ⟨gap, _, hgap⟩
    · cases reach with
      | nil =>
          rw [List.append_nil] at hstart
          exact .inl ⟨left, [], by rw [List.append_nil, hfirst, hstart]⟩
      | cons _ rest =>
          obtain ⟨rfl, _⟩ := List.cons.inj hback
          exact absurd (by rw [hstart]; simp) hpart
    · cases gap with
      | nil =>
          rw [hgap] at hback
          cases part with
          | nil => exact .inl List.nil_infix
          | cons _ rest =>
              obtain ⟨rfl, _⟩ := List.cons.inj hback
              exact absurd List.mem_cons_self hpart
      | cons _ gap =>
          rw [hgap, List.cons_append, List.cons_append] at hback
          exact .inr ⟨gap, right, (List.cons.inj hback).2.symm⟩

/-- Numbers that ascend below a bound are at most as many as the bound. -/
theorem length_le_of_ascending {numbers : List Nat} {bound : Nat}
    (hascending : numbers.Pairwise (· < ·)) (hbound : ∀ number ∈ numbers, number < bound) :
    numbers.length ≤ bound := by
  have hnodup : numbers.Nodup := hascending.imp Nat.ne_of_lt
  have hsubset : numbers ⊆ List.range bound :=
    fun number hmem => List.mem_range.mpr (hbound number hmem)
  simpa using (hnodup.subperm hsubset).length_le

end DocPress
