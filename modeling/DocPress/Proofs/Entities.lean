import DocPress.Compilation.Entities
import DocPress.Proofs.Text.Replacing

/-!
# Texts that decoding changes

Every entity is longer than the character it stands for. Decoding therefore shortens a
text in which an entity occurs, and leaves any other text as it is.
-/

namespace DocPress

/-- Entities replaced one after the other, each throughout the text. -/
def replaceEntities (entities : List (Text × Text)) (text : Text) : Text :=
  entities.foldl (fun text entity => replaceAll entity.1 entity.2 text) text

section ReplaceEntities

variable {entities : List (Text × Text)} {text : Text}

/-- A text without entities stays as it is in every pass. -/
theorem replaceEntities_eq_self (hnot : ∀ entity ∈ entities, ¬ entity.1 <:+: text) :
    replaceEntities entities text = text := by
  induction entities with
  | nil => rfl
  | cons entity rest ih =>
      rw [replaceEntities, List.foldl_cons, replaceAll_eq_self (hnot entity List.mem_cons_self)]
      exact ih fun other hmem => hnot other (List.mem_cons_of_mem _ hmem)

theorem length_replaceEntities_le
    (hlength : ∀ entity ∈ entities, entity.2.length ≤ entity.1.length) :
    (replaceEntities entities text).length ≤ text.length := by
  induction entities generalizing text with
  | nil => exact Nat.le_refl _
  | cons entity rest ih =>
      have hfirst : (replaceAll entity.1 entity.2 text).length ≤ text.length :=
        length_replaceAll_le (hlength entity List.mem_cons_self)
      exact Nat.le_trans (ih fun other hmem => hlength other (List.mem_cons_of_mem _ hmem)) hfirst

/-- The first pass that finds its entity makes the text shorter, and no later pass makes up for
that. -/
theorem length_replaceEntities_add_le {saved : Nat}
    (hlength : ∀ entity ∈ entities, entity.1 ≠ [] ∧ entity.2.length + saved ≤ entity.1.length)
    (hoccurs : ∃ entity ∈ entities, entity.1 <:+: text) :
    (replaceEntities entities text).length + saved ≤ text.length := by
  induction entities with
  | nil => exact absurd hoccurs (by simp)
  | cons entity rest ih =>
      have hrest := fun other hmem => hlength other (List.mem_cons_of_mem entity hmem)
      obtain ⟨hne, hentity⟩ := hlength entity List.mem_cons_self
      rw [replaceEntities, List.foldl_cons]
      -- Either this pass saves the characters, or a later one finds the entity untouched.
      by_cases hhere : entity.1 <:+: text
      · have hshort : (replaceAll entity.1 entity.2 text).length + saved ≤ text.length :=
          length_replaceAll_add_le hne hentity hhere
        have hle : (replaceEntities rest (replaceAll entity.1 entity.2 text)).length ≤
            (replaceAll entity.1 entity.2 text).length :=
          length_replaceEntities_le fun other hmem => Nat.le_of_add_right_le (hrest other hmem).2
        exact Nat.le_trans (Nat.add_le_add_right hle saved) hshort
      · rw [replaceAll_eq_self hhere]
        refine ih hrest ?_
        obtain ⟨other, hmem, hother⟩ := hoccurs
        rcases List.mem_cons.mp hmem with rfl | hmem
        · exact absurd hother hhere
        · exact ⟨other, hmem, hother⟩

end ReplaceEntities

/-- Whether one of the entities that are decoded occurs in a text. -/
def HasEntity (text : Text) : Prop :=
  ∃ entity ∈ textEntities, entity.1 <:+: text

instance (text : Text) : Decidable (HasEntity text) :=
  inferInstanceAs (Decidable (∃ entity ∈ textEntities, entity.1 <:+: text))

theorem decodeEntities_eq_self {text : Text} (hnot : ¬ HasEntity text) :
    decodeEntities text = text :=
  replaceEntities_eq_self fun entity hmem hoccurs => hnot ⟨entity, hmem, hoccurs⟩

/-- The shortest entities have four characters. -/
theorem length_decodeEntities_add_three_le {text : Text} (hentity : HasEntity text) :
    (decodeEntities text).length + 3 ≤ text.length :=
  length_replaceEntities_add_le (by decide) hentity

/-- Decoding changes exactly the texts in which an entity occurs. -/
theorem decodeEntities_eq_self_iff {text : Text} :
    decodeEntities text = text ↔ ¬ HasEntity text := by
  refine ⟨fun heq hentity => ?_, decodeEntities_eq_self⟩
  have hlength := length_decodeEntities_add_three_le hentity
  rw [heq] at hlength
  omega

end DocPress
