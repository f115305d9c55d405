import Mathlib.Data.List.MinMax
import DocPress.Proofs.EntityScan

/-!
# Decoding by the longest entry of a table

Entities are decoded as if the text were read once with a table of ten entries: at each
place the longest entry that fits is replaced, and where none fits the character is copied.
The table has the seven entities, and the three that are decoded after the ampersand once
more, each behind an ampersand that is an entity itself.

Only those three are decoded in two steps. Reading with the seven entities alone, where what
a replacement gives is never looked at again, has the same result exactly for the texts in
which none of the three occurs.
-/

namespace DocPress

/-! ## Reading a text with a table -/

/-- The entries of a table that begin a text. -/
def fittingEntries (table : List (Text × Text)) (text : Text) : List (Text × Text) :=
  table.filter fun entry => entry.1.isPrefixOf text

/-- The longest entry of a table that begins a text. -/
def longestEntry (table : List (Text × Text)) (text : Text) : Option (Text × Text) :=
  (fittingEntries table text).argmax fun entry => entry.1.length

/-- A text read once from left to right. Where entries of the table fit, the longest of them
is replaced, and reading goes on behind it; where none fits, the character is copied. -/
def readWith (table : List (Text × Text)) : Text → Text
  | [] => []
  | c :: rest =>
      match longestEntry table (c :: rest) with
      | some entry => entry.2 ++ readWith table (rest.drop (entry.1.length - 1))
      | none => c :: readWith table rest
termination_by text => text.length
decreasing_by
  · rw [List.length_drop, List.length_cons]
    omega
  · exact Nat.lt_succ_self _

section ReadWith

variable {table : List (Text × Text)} {entry : Text × Text} {text rest : Text} {c : Char}

theorem mem_fittingEntries :
    entry ∈ fittingEntries table text ↔ entry ∈ table ∧ entry.1 <+: text := by
  rw [fittingEntries, List.mem_filter, List.isPrefixOf_iff_prefix]

theorem longestEntry_eq_none_iff :
    longestEntry table text = none ↔ ∀ entry ∈ table, ¬ entry.1 <+: text := by
  rw [longestEntry, List.argmax_eq_none, List.eq_nil_iff_forall_not_mem]
  simp only [mem_fittingEntries, not_and]

/-- An entry is taken if it begins the text and all others that do so are shorter. -/
theorem longestEntry_eq_some (hmem : entry ∈ table) (hfits : entry.1 <+: text)
    (hlongest : ∀ other ∈ table, other.1 <+: text →
      other = entry ∨ other.1.length < entry.1.length) :
    longestEntry table text = some entry := by
  cases hfound : longestEntry table text with
  | none => exact absurd hfits (longestEntry_eq_none_iff.mp hfound entry hmem)
  | some other =>
      obtain ⟨hother, hbegins⟩ := mem_fittingEntries.mp (List.argmax_mem hfound)
      have hle := List.le_of_mem_argmax (f := fun entry : Text × Text => entry.1.length)
        (mem_fittingEntries.mpr ⟨hmem, hfits⟩) hfound
      rcases hlongest other hother hbegins with rfl | hlt
      · rfl
      · exact absurd hle (Nat.not_le_of_gt hlt)

@[simp]
theorem readWith_nil (table : List (Text × Text)) : readWith table [] = [] := by
  rw [readWith]

theorem readWith_of_longest {head replacement : Text}
    (hlongest : longestEntry table (c :: (head ++ rest)) = some (c :: head, replacement)) :
    readWith table (c :: (head ++ rest)) = replacement ++ readWith table rest := by
  rw [readWith, hlongest]
  simp

theorem readWith_of_none (hnone : longestEntry table (c :: rest) = none) :
    readWith table (c :: rest) = c :: readWith table rest := by
  rw [readWith, hnone]

end ReadWith

/-! ## Names and entries -/

/-- The entries for names that are read at an ampersand. -/
def entriesOf (names : List (Text × Char)) : List (Text × Text) :=
  names.map fun name => ('&' :: name.1, [name.2])

section EntriesOf

variable {table : List (Text × Text)} {names : List (Text × Char)} {rest : Text}

/-- No entry begins without an ampersand. -/
theorem longestEntry_cons_of_ne (htable : table.Perm (entriesOf names)) {c : Char} (hc : c ≠ '&')
    (rest : Text) : longestEntry table (c :: rest) = none := by
  rw [longestEntry_eq_none_iff]
  intro entry hmem hfits
  obtain ⟨name, _, rfl⟩ := List.mem_map.mp (htable.mem_iff.mp hmem)
  exact hc (List.cons_prefix_cons.mp hfits).1.symm

theorem longestEntry_ampersand_of_none (htable : table.Perm (entriesOf names))
    (hread : readName names rest = none) : longestEntry table ('&' :: rest) = none := by
  rw [longestEntry_eq_none_iff]
  intro entry hmem hfits
  obtain ⟨name, hname, rfl⟩ := List.mem_map.mp (htable.mem_iff.mp hmem)
  exact readName_eq_none_iff.mp hread name hname (List.cons_prefix_cons.mp hfits).2

/-- The table may be in any order: the first name that fits is that of the longest entry. -/
theorem longestEntry_ampersand_of_first (htable : table.Perm (entriesOf names))
    (hsorted : LongestFirst names) {earlier later : List (Text × Char)} {name : Text × Char}
    (hnames : names = earlier ++ name :: later) (hfits : name.1 <+: rest)
    (hearlier : ∀ other ∈ earlier, ¬ other.1 <+: rest) :
    longestEntry table ('&' :: rest) = some ('&' :: name.1, [name.2]) := by
  have hname : name ∈ names := by rw [hnames]; simp
  refine longestEntry_eq_some (htable.mem_iff.mpr (List.mem_map_of_mem hname))
    (List.cons_prefix_cons.mpr ⟨rfl, hfits⟩) ?_
  intro entry hmem hentry
  obtain ⟨other, hother, rfl⟩ := List.mem_map.mp (htable.mem_iff.mp hmem)
  have hbegins : other.1 <+: rest := (List.cons_prefix_cons.mp hentry).2
  rcases hsorted.eq_or_length_lt hnames hearlier hfits hother hbegins with rfl | hlt
  · exact .inl rfl
  · exact .inr (Nat.succ_lt_succ hlt)

/-- Reading with the longest entries is decoding with the names, if these are sorted. -/
theorem readWith_eq_decodeNames (htable : table.Perm (entriesOf names))
    (hsorted : LongestFirst names) (text : Text) :
    readWith table text = decodeNames names text := by
  -- Both readings take the same steps: a name with its ampersand, or one character.
  fun_induction decodeNames names text with
  | case1 => exact readWith_nil table
  | case2 rest d tail hread ih =>
      obtain ⟨earlier, name, later, hnames, rfl, rfl, hearlier⟩ := readName_eq_some_iff.mp hread
      have hlongest := longestEntry_ampersand_of_first htable hsorted hnames
        (List.prefix_append name.1 tail) hearlier
      rw [readWith_of_longest hlongest, ih, List.singleton_append]
  | case3 rest hread ih =>
      rw [readWith_of_none (longestEntry_ampersand_of_none htable hread), ih]
  | case4 c rest hc ih => rw [readWith_of_none (longestEntry_cons_of_ne htable hc rest), ih]

end EntriesOf

/-! ## Where entities stand -/

/-- Whether one of the names stands behind an ampersand somewhere in a text. -/
def HasName (names : List (Text × Char)) (text : Text) : Prop :=
  ∃ name ∈ names, '&' :: name.1 <:+: text

section HasName

variable {names : List (Text × Char)} {rest : Text}

theorem not_hasName_nil (names : List (Text × Char)) : ¬ HasName names [] := by
  rintro ⟨name, _, hoccurs⟩
  exact List.cons_ne_nil _ _ (List.infix_nil.mp hoccurs)

theorem hasName_cons_of_ne {c : Char} (hc : c ≠ '&') :
    HasName names (c :: rest) ↔ HasName names rest := by
  refine exists_congr fun name => and_congr_right fun _ => ?_
  rw [List.infix_cons_iff, or_iff_right]
  exact fun hprefix => hc (List.cons_prefix_cons.mp hprefix).1.symm

/-- An ampersand without a name after it adds no occurrence. -/
theorem hasName_ampersand_of_none (hread : readName names rest = none) :
    HasName names ('&' :: rest) ↔ HasName names rest := by
  refine exists_congr fun name => and_congr_right fun hname => ?_
  rw [List.infix_cons_iff, or_iff_right]
  exact fun hprefix => readName_eq_none_iff.mp hread name hname (List.cons_prefix_cons.mp hprefix).2

theorem hasName_append {plain : Text} (hplain : '&' ∉ plain) :
    HasName names (plain ++ rest) ↔ HasName names rest := by
  induction plain with
  | nil => rfl
  | cons c plain ih =>
      rw [List.mem_cons, not_or] at hplain
      rw [List.cons_append, hasName_cons_of_ne (Ne.symm hplain.1), ih hplain.2]

end HasName

/-! ## Entities decoded twice -/

/-- The names behind the name of the ampersand. -/
def doubledNames : List (Text × Char) := entityNames.take 3

/-- The names of the entities themselves. -/
def onceNames : List (Text × Char) := entityNames.drop 3

/-- The doubled names come before those that are decoded once. -/
theorem readName_entityNames (text : Text) :
    readName entityNames text = (readName doubledNames text).or (readName onceNames text) := by
  rw [← readName_append, doubledNames, onceNames, List.take_append_drop]

/-- Without a doubled name, that of the ampersand is read in its place, and the name behind
it stays. -/
theorem readName_onceNames_of_doubled {entry : Text × Char} (hmem : entry ∈ doubledNames)
    (tail : Text) : ∃ name, name ≠ [] ∧ '&' ∉ name ∧
      readName onceNames (entry.1 ++ tail) = some ('&', name ++ tail) := by
  have hnames : doubledNames = [("amp;nbsp;".toList, ' '), ("amp;gt;".toList, '>'),
    ("amp;lt;".toList, '<')] := rfl
  rw [hnames] at hmem
  simp only [List.mem_cons, List.not_mem_nil, or_false] at hmem
  rcases hmem with rfl | rfl | rfl
  · exact ⟨"nbsp;".toList, by decide, by decide, rfl⟩
  · exact ⟨"gt;".toList, by decide, by decide, rfl⟩
  · exact ⟨"lt;".toList, by decide, by decide, rfl⟩

/-- Whether no doubled name stands in a text and the other names suffice, or one does and
the text would be longer with the other names alone. -/
def NeedsDoubled (text : Text) : Prop :=
  (¬ HasName doubledNames text ∧ decodeNames entityNames text = decodeNames onceNames text) ∨
    (HasName doubledNames text ∧
      (decodeNames entityNames text).length < (decodeNames onceNames text).length)

namespace NeedsDoubled

variable {text tail : Text}

theorem length_le (htext : NeedsDoubled text) :
    (decodeNames entityNames text).length ≤ (decodeNames onceNames text).length := by
  rcases htext with ⟨_, heq⟩ | ⟨_, hlt⟩
  · exact Nat.le_of_eq (congrArg List.length heq)
  · exact Nat.le_of_lt hlt

/-- It is so as soon as it is so for what follows a character that both give. -/
theorem of_tail (htail : NeedsDoubled tail) (c : Char)
    (hname : HasName doubledNames text ↔ HasName doubledNames tail)
    (hall : decodeNames entityNames text = c :: decodeNames entityNames tail)
    (honce : decodeNames onceNames text = c :: decodeNames onceNames tail) :
    NeedsDoubled text := by
  rw [NeedsDoubled, hname, hall, honce]
  refine htail.imp (And.imp_right fun heq => ?_) (And.imp_right fun hlt => ?_)
  · rw [heq]
  · exact Nat.succ_lt_succ hlt

/-- The character that a doubled name gives, against the ampersand and the name behind it. -/
theorem of_doubled (htail : NeedsDoubled tail) {entry : Text × Char}
    (hmem : entry ∈ doubledNames)
    (hread : readName entityNames (entry.1 ++ tail) = some (entry.2, tail)) :
    NeedsDoubled ('&' :: (entry.1 ++ tail)) := by
  obtain ⟨name, hne, hplain, honce⟩ := readName_onceNames_of_doubled hmem tail
  refine .inr ⟨⟨entry, hmem, [], tail, rfl⟩, ?_⟩
  rw [decodeNames_of_some hread, decodeNames_of_some honce, decodeNames_append_of_notMem hplain,
    List.length_cons, List.length_cons, List.length_append]
  have hpos := List.length_pos_iff.mpr hne
  have hle := htail.length_le
  omega

end NeedsDoubled

/-- The doubled names matter exactly for the texts in which one of them stands. -/
theorem needsDoubled (text : Text) : NeedsDoubled text := by
  -- Both readings stop at the same ampersands, since no name holds one. They part only where a
  -- doubled name is read, and meet again behind it.
  fun_induction decodeNames entityNames text with
  | case1 => exact .inl ⟨not_hasName_nil _, by rw [decodeNames_nil, decodeNames_nil]⟩
  | case2 rest d tail hread ih =>
      have hnames := readName_entityNames rest
      cases hdoubled : readName doubledNames rest with
      | some found =>
          rw [hdoubled, Option.some_or, hread] at hnames
          obtain rfl := Option.some.inj hnames
          obtain ⟨entry, hmem, rfl, rfl⟩ := eq_append_of_readName hdoubled
          exact ih.of_doubled hmem hread
      | none =>
          rw [hdoubled, Option.none_or, hread] at hnames
          obtain ⟨entry, hmem, rfl, rfl⟩ := eq_append_of_readName hread
          have hplain := ampersand_notMem_of_mem_entityNames hmem
          refine ih.of_tail entry.2 ?_ (decodeNames_of_some hread) (decodeNames_of_some hnames.symm)
          rw [hasName_ampersand_of_none hdoubled, hasName_append hplain]
  | case3 rest hread ih =>
      have hnames := readName_entityNames rest
      rw [hread, eq_comm, Option.or_eq_none_iff] at hnames
      exact ih.of_tail '&' (hasName_ampersand_of_none hnames.1) (decodeNames_of_none hread)
        (decodeNames_of_none hnames.2)
  | case4 c rest hc ih =>
      exact ih.of_tail c (hasName_cons_of_ne hc) (decodeNames_cons_of_ne hc)
        (decodeNames_cons_of_ne hc)

/-! ## The tables -/

/-- The entities that are decoded after the ampersand, each behind an ampersand that is an
entity itself. They give what they give without it. -/
def doubledEntities : List (Text × Text) :=
  [("&amp;lt;".toList, ['<']), ("&amp;gt;".toList, ['>']), ("&amp;nbsp;".toList, [' '])]

/-- Whether an entity that is decoded in two steps occurs in a text. -/
def HasDoubledEntity (text : Text) : Prop :=
  ∃ entity ∈ doubledEntities, entity.1 <:+: text

instance (text : Text) : Decidable (HasDoubledEntity text) :=
  inferInstanceAs (Decidable (∃ entity ∈ doubledEntities, entity.1 <:+: text))

theorem hasName_doubledNames_iff {text : Text} :
    HasName doubledNames text ↔ HasDoubledEntity text := by
  have htable : doubledEntities.Perm (entriesOf doubledNames) := by decide
  simp only [HasName, HasDoubledEntity, htable.mem_iff, entriesOf, List.mem_map,
    exists_exists_and_eq_and]

/-- The table of the entities holds the names that are decoded once. -/
theorem readWith_textEntities (text : Text) :
    readWith textEntities text = decodeNames onceNames text := by
  have htable : textEntities.Perm (entriesOf onceNames) := by decide
  exact readWith_eq_decodeNames htable (by decide) text

/-- With the doubled entities in the table, one reading decodes the text. -/
theorem readWith_allEntities (text : Text) :
    readWith (textEntities ++ doubledEntities) text = decodeEntities text := by
  have htable : (textEntities ++ doubledEntities).Perm (entriesOf entityNames) := by decide
  rw [decodeEntities_eq_decodeNames]
  exact readWith_eq_decodeNames htable longestFirst_entityNames text

/-- Decoding reads the text once and replaces at each place the longest entry that fits, of
the entities and of those behind an ampersand that is an entity. Reading with the entities
alone gives another text exactly if one of the doubled ones occurs. -/
theorem decodeEntities_eq_readWith (text : Text) :
    decodeEntities text = readWith (textEntities ++ doubledEntities) text ∧
      (decodeEntities text = readWith textEntities text ↔ ¬ HasDoubledEntity text) := by
  refine ⟨(readWith_allEntities text).symm, ?_⟩
  rw [decodeEntities_eq_decodeNames, readWith_textEntities, ← hasName_doubledNames_iff]
  rcases needsDoubled text with ⟨hnot, heq⟩ | ⟨hname, hlt⟩
  · exact iff_of_true heq hnot
  · refine iff_of_false (fun heq => ?_) (not_not_intro hname)
    rw [heq] at hlt
    exact Nat.lt_irrefl _ hlt

/-- The other entities are decoded once behind an ampersand. -/
example : decodeEntities "&amp;amp;lt; &amp;quot;".toList = "&amp;lt; &quot;".toList := by
  decide +kernel

end DocPress
