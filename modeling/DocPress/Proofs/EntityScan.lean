import DocPress.Proofs.Entities

/-!
# Decoding as one reading of the text

Entities are decoded in several passes, each throughout the text. All the same they are
decoded as if the text were read once, from left to right: an ampersand and the longest
known name after it give one character, and any other character stays. A name is known if
it is that of an entity, or that of an entity behind the name of the ampersand, because
the ampersand that a pass brings about can begin an entity of a later pass.

So two texts are decoded together as they are decoded apart, unless an entity reaches from
one into the other.
-/

namespace DocPress

/-! ## Reading names -/

/-- The character that a name at the beginning of a text gives, and what follows the name.
The first of the names that fit is taken. -/
def readName (names : List (Text × Char)) (text : Text) : Option (Char × Text) :=
  names.findSome? fun entry => (dropLeading? entry.1 text).map fun rest => (entry.2, rest)

/-- What is read is one of the names, at the beginning of the text. -/
theorem eq_append_of_readName {names : List (Text × Char)} {text rest : Text} {c : Char}
    (hread : readName names text = some (c, rest)) :
    ∃ entry ∈ names, entry.2 = c ∧ text = entry.1 ++ rest := by
  obtain ⟨entry, hmem, hfits⟩ := List.exists_of_findSome?_eq_some hread
  obtain ⟨after, hdrop, hafter⟩ := Option.map_eq_some_iff.mp hfits
  obtain ⟨hc, rfl⟩ := Prod.mk.inj hafter
  exact ⟨entry, hmem, hc, dropLeading?_eq_some_iff.mp hdrop⟩

theorem readName_length {names : List (Text × Char)} {text rest : Text} {c : Char}
    (hread : readName names text = some (c, rest)) : rest.length ≤ text.length := by
  obtain ⟨entry, _, _, rfl⟩ := eq_append_of_readName hread
  simp

/-- Nothing is read exactly if no name begins the text. -/
theorem readName_eq_none_iff {names : List (Text × Char)} {text : Text} :
    readName names text = none ↔ ∀ entry ∈ names, ¬ entry.1 <+: text := by
  rw [readName, List.findSome?_eq_none_iff]
  refine forall₂_congr fun entry _ => ?_
  rw [Option.map_eq_none_iff, Option.eq_none_iff_forall_ne_some]
  refine ⟨fun hnone ⟨rest, hrest⟩ => hnone rest (dropLeading?_eq_some_iff.mpr hrest.symm), ?_⟩
  exact fun hnot rest hdrop => hnot ⟨rest, (dropLeading?_eq_some_iff.mp hdrop).symm⟩

/-- A text in which each ampersand, with a name after it, is replaced by what it stands
for. The text is read once. -/
def decodeNames (names : List (Text × Char)) : Text → Text
  | [] => []
  | c :: rest =>
      if c = '&' then
        match _found : readName names rest with
        | some (d, tail) => d :: decodeNames names tail
        | none => c :: decodeNames names rest
      else c :: decodeNames names rest
termination_by text => text.length
decreasing_by
  all_goals simp_wf
  have := readName_length _found
  omega

section DecodeNames

variable {names : List (Text × Char)} {text rest tail : Text} {c d : Char}

@[simp]
theorem decodeNames_nil (names : List (Text × Char)) : decodeNames names [] = [] := by
  rw [decodeNames]

theorem decodeNames_cons_of_ne (hc : c ≠ '&') :
    decodeNames names (c :: rest) = c :: decodeNames names rest := by
  rw [decodeNames, if_neg hc]

theorem decodeNames_of_some (hread : readName names rest = some (d, tail)) :
    decodeNames names ('&' :: rest) = d :: decodeNames names tail := by
  rw [decodeNames, if_pos rfl]
  split
  next hfound =>
    obtain ⟨rfl, rfl⟩ := Prod.mk.inj (Option.some.inj (hread.symm.trans hfound))
    rfl
  next hfound => exact absurd (hread.symm.trans hfound) (by simp)

theorem decodeNames_of_none (hread : readName names rest = none) :
    decodeNames names ('&' :: rest) = '&' :: decodeNames names rest := by
  rw [decodeNames, if_pos rfl]
  split
  next hfound => exact absurd (hread.symm.trans hfound) (by simp)
  next => rfl

theorem decodeNames_append_of_notMem (hplain : '&' ∉ text) (rest : Text) :
    decodeNames names (text ++ rest) = text ++ decodeNames names rest := by
  induction text with
  | nil => rfl
  | cons c text ih =>
      rw [List.mem_cons, not_or] at hplain
      rw [List.cons_append, decodeNames_cons_of_ne (Ne.symm hplain.1), ih hplain.2,
        List.cons_append]

theorem decodeNames_without (text : Text) : decodeNames [] text = text := by
  induction text with
  | nil => exact decodeNames_nil []
  | cons c rest ih =>
      by_cases hc : c = '&'
      · rw [hc, decodeNames_of_none rfl, ih]
      · rw [decodeNames_cons_of_ne hc, ih]

theorem decodeNames_cons_ne_nil (names : List (Text × Char)) (c : Char) (rest : Text) :
    decodeNames names (c :: rest) ≠ [] := by
  by_cases hc : c = '&'
  · subst hc
    cases hread : readName names rest with
    | none =>
        rw [decodeNames_of_none hread]
        exact List.cons_ne_nil _ _
    | some found =>
        rw [decodeNames_of_some hread]
        exact List.cons_ne_nil _ _
  · rw [decodeNames_cons_of_ne hc]
    exact List.cons_ne_nil _ _

end DecodeNames

/-! ## One more pass -/

section Pass

variable {names others : List (Text × Char)} {name : Text} {c : Char}

/-- Whether a name can come into a text only as it was written: its characters are neither
ampersands nor brought about by other names. -/
def IsInert (names : List (Text × Char)) (name : Text) : Prop :=
  ∀ d ∈ name, d ≠ '&' ∧ ∀ entry ∈ names, entry.2 ≠ d

instance (names : List (Text × Char)) (name : Text) : Decidable (IsInert names name) :=
  List.decidableBAll (fun d => d ≠ '&' ∧ ∀ entry ∈ names, entry.2 ≠ d) name

/-- Such a name begins the decoded text where it begins the text. -/
theorem dropLeading?_decodeNames (hinert : IsInert names name) (text : Text) :
    dropLeading? name (decodeNames names text) =
      (dropLeading? name text).map (decodeNames names) := by
  induction name generalizing text with
  | nil => rfl
  | cons p name ih =>
      obtain ⟨hp, hothers⟩ := hinert p List.mem_cons_self
      cases text with
      | nil => simp [dropLeading?]
      | cons d rest =>
          -- Neither an ampersand nor what a name gives is a character of an inert name.
          by_cases hd : d = '&'
          · subst hd
            rw [dropLeading?, if_neg hp]
            cases hread : readName names rest with
            | none => rw [decodeNames_of_none hread, dropLeading?, if_neg hp, Option.map_none]
            | some found =>
                obtain ⟨entry, hmem, hentry, _⟩ := eq_append_of_readName hread
                rw [decodeNames_of_some hread, dropLeading?,
                  if_neg (hentry ▸ Ne.symm (hothers entry hmem)), Option.map_none]
          · rw [decodeNames_cons_of_ne hd, dropLeading?, dropLeading?]
            split
            next => exact ih (fun d hmem => hinert d (List.mem_cons_of_mem _ hmem)) rest
            next => rfl

/-- What is read at an ampersand when there is one more pass for a name. The ampersand that
another name gave can begin it too. -/
def readNext (names : List (Text × Char)) (entry : Text × Char) (text : Text) :
    Option (Char × Text) :=
  let here (tail : Text) := (dropLeading? entry.1 tail).map fun rest => (entry.2, rest)
  match readName names text with
  | none => here text
  | some (d, tail) => if d = '&' then some ((here tail).getD ('&', tail)) else some (d, tail)

/-- What a pass does at an ampersand, if it is right about the text after it. -/
theorem replaceAll_ampersand_decodeNames (hinert : IsInert names name) {tail : Text}
    (hpass : ∀ rest : Text, rest.length ≤ tail.length →
      replaceAll ('&' :: name) [c] (decodeNames names rest) = decodeNames others rest) :
    replaceAll ('&' :: name) [c] ('&' :: decodeNames names tail) =
      (dropLeading? name tail).elim ('&' :: decodeNames others tail)
        (c :: decodeNames others ·) := by
  have hdrop : dropLeading? ('&' :: name) ('&' :: decodeNames names tail) =
      (dropLeading? name tail).map (decodeNames names) := by
    rw [dropLeading?, if_pos rfl, dropLeading?_decodeNames hinert]
  cases hname : dropLeading? name tail with
  | some rest =>
      have hrest := dropLeading?_length hname
      rw [hname, Option.map_some] at hdrop
      rw [replaceAll_of_leading (List.cons_ne_nil _ _) hdrop, hpass rest (by omega),
        Option.elim_some]
      rfl
  | none =>
      rw [hname, Option.map_none] at hdrop
      rw [replaceAll_cons_of_none hdrop, hpass tail (Nat.le_refl _), Option.elim_none]

/-- What is decoded at an ampersand when the names are those of one more pass. -/
theorem decodeNames_ampersand
    (hread : ∀ text, readName others text = readNext names (name, c) text) (rest : Text) :
    decodeNames others ('&' :: rest) =
      let atAmpersand (tail : Text) := (dropLeading? name tail).elim
        ('&' :: decodeNames others tail) (c :: decodeNames others ·)
      match readName names rest with
      | none => atAmpersand rest
      | some (d, tail) => if d = '&' then atAmpersand tail else d :: decodeNames others tail := by
  have hnext := hread rest
  rw [readNext] at hnext
  cases hfound : readName names rest with
  | none =>
      rw [hfound] at hnext
      dsimp only at hnext ⊢
      cases hname : dropLeading? name rest with
      | some tail =>
          rw [hname, Option.map_some] at hnext
          exact decodeNames_of_some hnext
      | none =>
          rw [hname, Option.map_none] at hnext
          exact decodeNames_of_none hnext
  | some found =>
      obtain ⟨d, tail⟩ := found
      rw [hfound] at hnext
      dsimp only at hnext ⊢
      split at hnext
      next hd =>
        rw [if_pos hd]
        cases hname : dropLeading? name tail with
        | some after =>
            rw [hname, Option.map_some, Option.getD_some] at hnext
            exact decodeNames_of_some hnext
        | none =>
            rw [hname, Option.map_none, Option.getD_none] at hnext
            exact decodeNames_of_some hnext
      next hd =>
        rw [if_neg hd]
        exact decodeNames_of_some hnext

/-- A pass for one more entity is as if its name had been among those that are read. -/
theorem replaceAll_decodeNames (hinert : IsInert names name)
    (hread : ∀ text, readName others text = readNext names (name, c) text) (text : Text) :
    replaceAll ('&' :: name) [c] (decodeNames names text) = decodeNames others text := by
  induction hlength : text.length using Nat.strongRecOn generalizing text with
  | ind length ih =>
      subst hlength
      -- What the pass does at a character depends on the text after it, which is shorter.
      have hamp : ∀ tail : Text, tail.length < text.length →
          replaceAll ('&' :: name) [c] ('&' :: decodeNames names tail) =
            (dropLeading? name tail).elim ('&' :: decodeNames others tail)
              (c :: decodeNames others ·) :=
        fun tail hshort => replaceAll_ampersand_decodeNames hinert fun rest hrest =>
          ih rest.length (Nat.lt_of_le_of_lt hrest hshort) rest rfl
      have hother : ∀ (d : Char) (tail : Text), d ≠ '&' → tail.length < text.length →
          replaceAll ('&' :: name) [c] (d :: decodeNames names tail) =
            d :: decodeNames others tail := by
        intro d tail hd hshort
        rw [replaceAll_cons_of_none (by rw [dropLeading?, if_neg (Ne.symm hd)]),
          ih _ hshort tail rfl]
      cases text with
      | nil => rw [decodeNames_nil, decodeNames_nil, replaceAll]
      | cons d rest =>
          by_cases hd : d = '&'
          · subst hd
            rw [decodeNames_ampersand hread]
            cases hfound : readName names rest with
            | none => rw [decodeNames_of_none hfound, hamp rest (by simp)]
            | some found =>
                obtain ⟨e, tail⟩ := found
                have hshort : tail.length < ('&' :: rest).length :=
                  Nat.lt_succ_of_le (readName_length hfound)
                rw [decodeNames_of_some hfound]
                by_cases he : e = '&'
                · rw [he, hamp tail hshort]
                  exact (if_pos rfl).symm
                · rw [hother e tail he hshort]
                  exact (if_neg he).symm
          · rw [decodeNames_cons_of_ne hd, decodeNames_cons_of_ne hd, hother d rest hd (by simp)]

end Pass

/-! ## The names of the entities -/

section Names

variable {names : List (Text × Char)} {entry : Text × Char}

/-- Of two lists of names, the second one is read only where the first one has nothing. -/
theorem readName_append (names others : List (Text × Char)) (text : Text) :
    readName (names ++ others) text = (readName names text).or (readName others text) :=
  List.findSome?_append

theorem readName_singleton (entry : Text × Char) (text : Text) :
    readName [entry] text = (dropLeading? entry.1 text).map fun rest => (entry.2, rest) := by
  rw [readName, List.findSome?_singleton]

/-- As long as no name gives an ampersand, one more name is read where it was written. -/
theorem readName_append_entry (hplain : ∀ other ∈ names, other.2 ≠ '&') (text : Text) :
    readName (names ++ [entry]) text = readNext names entry text := by
  rw [readName_append, readName_singleton, readNext]
  cases hread : readName names text with
  | none => rfl
  | some found =>
      obtain ⟨other, hmem, hother, _⟩ := eq_append_of_readName hread
      rw [Option.some_or]
      exact (if_neg (hother ▸ hplain other hmem)).symm

/-- The name of the ampersand. -/
def ampersandName : Text := ['a', 'm', 'p', ';']

/-- When there is the name of the ampersand, one more name is read behind it as well. -/
theorem readName_cons_append_entry
    (hname : ∀ other ∈ names, other.2 = '&' → other.1 = ampersandName)
    (hfirst : ∀ rest, readName names (ampersandName ++ (entry.1 ++ rest)) =
      some ('&', entry.1 ++ rest)) (text : Text) :
    readName ((ampersandName ++ entry.1, entry.2) :: names ++ [entry]) text =
      readNext names entry text := by
  rw [List.cons_append, ← List.singleton_append, readName_append, readName_append,
    readName_singleton, readName_singleton, readNext]
  dsimp only
  cases hlong : dropLeading? (ampersandName ++ entry.1) text with
  | some rest =>
      obtain rfl := dropLeading?_eq_some_iff.mp hlong
      have hrest : dropLeading? entry.1 (entry.1 ++ rest) = some rest :=
        dropLeading?_eq_some_iff.mpr rfl
      rw [List.append_assoc, hfirst, Option.map_some, Option.some_or]
      simp only [if_true, hrest, Option.map_some, Option.getD_some]
  | none =>
      rw [Option.map_none, Option.none_or]
      cases hread : readName names text with
      | none => rfl
      | some found =>
          obtain ⟨d, tail⟩ := found
          obtain ⟨other, hmem, rfl, rfl⟩ := eq_append_of_readName hread
          rw [Option.some_or]
          dsimp only
          split
          next hamp =>
            rw [hname other hmem hamp] at hlong
            have hshort : dropLeading? entry.1 tail = none := by
              cases hdrop : dropLeading? entry.1 tail with
              | none => rfl
              | some rest =>
                  obtain rfl := dropLeading?_eq_some_iff.mp hdrop
                  rw [dropLeading?_eq_some_iff.mpr (List.append_assoc _ _ _).symm] at hlong
                  exact absurd hlong (by simp)
            rw [hshort, Option.map_none, Option.getD_none, hamp]
          next => rfl

/-- A pass before the ampersand is decoded adds the name of its entity. -/
theorem replaceAll_decodeNames_append (hinert : IsInert names entry.1)
    (hplain : ∀ other ∈ names, other.2 ≠ '&') (text : Text) :
    replaceAll ('&' :: entry.1) [entry.2] (decodeNames names text) =
      decodeNames (names ++ [entry]) text :=
  replaceAll_decodeNames hinert (readName_append_entry hplain) text

/-- A pass after the ampersand is decoded adds the name of its entity twice, once behind that of
the ampersand. -/
theorem replaceAll_decodeNames_cons (hinert : IsInert names entry.1)
    (hname : ∀ other ∈ names, other.2 = '&' → other.1 = ampersandName)
    (hfirst : ∀ rest, readName names (ampersandName ++ (entry.1 ++ rest)) =
      some ('&', entry.1 ++ rest)) (text : Text) :
    replaceAll ('&' :: entry.1) [entry.2] (decodeNames names text) =
      decodeNames ((ampersandName ++ entry.1, entry.2) :: names ++ [entry]) text :=
  replaceAll_decodeNames hinert (readName_cons_append_entry hname hfirst) text

end Names

/-- The names that are read at an ampersand, of two that fit the longer one first. -/
def entityNames : List (Text × Char) :=
  [("amp;nbsp;".toList, ' '), ("amp;gt;".toList, '>'), ("amp;lt;".toList, '<'),
    ("#39;".toList, '\''), ("#x27;".toList, '\''), ("quot;".toList, '"'), ("amp;".toList, '&'),
    ("lt;".toList, '<'), ("gt;".toList, '>'), ("nbsp;".toList, ' ')]

/-- The passes together read the text once. -/
theorem decodeEntities_eq_decodeNames (text : Text) :
    decodeEntities text = decodeNames entityNames text := by
  have hpasses : decodeEntities text =
      replaceAll ('&' :: "nbsp;".toList) [' '] (replaceAll ('&' :: "gt;".toList) ['>']
        (replaceAll ('&' :: "lt;".toList) ['<'] (replaceAll ('&' :: "amp;".toList) ['&']
          (replaceAll ('&' :: "quot;".toList) ['"'] (replaceAll ('&' :: "#x27;".toList) ['\'']
            (replaceAll ('&' :: "#39;".toList) ['\''] (decodeNames [] text))))))) := by
    rw [decodeNames_without]
    rfl
  rw [hpasses,
    @replaceAll_decodeNames_append _ ("#39;".toList, '\'') (by decide) (by decide),
    @replaceAll_decodeNames_append _ ("#x27;".toList, '\'') (by decide) (by decide),
    @replaceAll_decodeNames_append _ ("quot;".toList, '"') (by decide) (by decide),
    @replaceAll_decodeNames_append _ ("amp;".toList, '&') (by decide) (by decide),
    @replaceAll_decodeNames_cons _ ("lt;".toList, '<') (by decide) (by decide) (fun _ => rfl),
    @replaceAll_decodeNames_cons _ ("gt;".toList, '>') (by decide) (by decide) (fun _ => rfl),
    @replaceAll_decodeNames_cons _ ("nbsp;".toList, ' ') (by decide) (by decide) (fun _ => rfl)]
  rfl

@[simp]
theorem decodeEntities_nil : decodeEntities [] = [] := by
  rw [decodeEntities_eq_decodeNames, decodeNames_nil]

/-! ## Texts decoded together -/

/-- The name that is read begins the text, and none of the names before it in the list does. -/
theorem readName_eq_some_iff {names : List (Text × Char)} {text rest : Text} {c : Char} :
    readName names text = some (c, rest) ↔
      ∃ earlier entry later, names = earlier ++ entry :: later ∧ entry.2 = c ∧
        text = entry.1 ++ rest ∧ ∀ other ∈ earlier, ¬ other.1 <+: text := by
  rw [readName, List.findSome?_eq_some_iff]
  refine exists_congr fun earlier => exists_congr fun entry => exists_congr fun later => ?_
  refine and_congr_right fun _ => ?_
  rw [← and_assoc]
  refine and_congr ?_ ?_
  · simp only [Option.map_eq_some_iff, dropLeading?_eq_some_iff, Prod.mk.injEq]
    constructor
    · rintro ⟨_, htext, hc, rfl⟩
      exact ⟨hc, htext⟩
    · rintro ⟨hc, htext⟩
      exact ⟨rest, htext, hc, rfl⟩
  · have hnone := @readName_eq_none_iff earlier text
    rw [readName, List.findSome?_eq_none_iff] at hnone
    exact hnone

/-- No name has an ampersand in it, so that names do not overlap. -/
theorem ampersand_notMem_of_mem_entityNames {entry : Text × Char} (hmem : entry ∈ entityNames) :
    '&' ∉ entry.1 := by
  have hall : ∀ entry ∈ entityNames, '&' ∉ entry.1 := by decide
  exact hall entry hmem

/-- Whether no name of a list begins one that comes later, so that of two names that fit, the
longer one comes first. -/
def LongestFirst (names : List (Text × Char)) : Prop :=
  names.Pairwise fun first second => ¬ first.1 <+: second.1

instance (names : List (Text × Char)) : Decidable (LongestFirst names) :=
  inferInstanceAs (Decidable (names.Pairwise fun first second => ¬ first.1 <+: second.1))

/-- Then the name that is read is the longest one that fits. -/
theorem LongestFirst.eq_or_length_lt {names earlier later : List (Text × Char)}
    (hsorted : LongestFirst names) {entry other : Text × Char} {text : Text}
    (hnames : names = earlier ++ entry :: later)
    (hearlier : ∀ other ∈ earlier, ¬ other.1 <+: text) (hentry : entry.1 <+: text)
    (hmem : other ∈ names) (hother : other.1 <+: text) :
    other = entry ∨ other.1.length < entry.1.length := by
  rw [LongestFirst, hnames] at hsorted
  rw [hnames] at hmem
  rcases List.mem_append.mp hmem with hbefore | hmem
  · exact absurd hother (hearlier other hbefore)
  · refine (List.mem_cons.mp hmem).imp_right fun hafter => ?_
    have hnot := (List.pairwise_cons.mp (List.pairwise_append.mp hsorted).2.1).1 other hafter
    refine Nat.lt_of_not_le fun hle => hnot ?_
    exact List.prefix_of_prefix_length_le hentry hother hle

/-- Of the known names that fit, the longest one is read. -/
theorem longestFirst_entityNames : LongestFirst entityNames := by decide

/-- Whether an entity, or one behind an ampersand that is an entity itself, begins at the end
of one text and goes on at the beginning of another. -/
def Straddles (first second : Text) : Prop :=
  ∃ entry ∈ entityNames, ∃ place < entry.1.length,
    '&' :: entry.1.take place <:+ first ∧ entry.1.drop place <+: second

instance (first second : Text) : Decidable (Straddles first second) :=
  inferInstanceAs (Decidable (∃ entry ∈ entityNames, ∃ place < entry.1.length,
    '&' :: entry.1.take place <:+ first ∧ entry.1.drop place <+: second))

/-- An entity that reaches over is cut into a front, which ends the first text, and a back, which
begins the second one. -/
theorem straddles_iff {first second : Text} :
    Straddles first second ↔ ∃ entry ∈ entityNames, ∃ front back, entry.1 = front ++ back ∧
      back ≠ [] ∧ '&' :: front <:+ first ∧ back <+: second := by
  refine exists_congr fun entry => and_congr_right fun _ => ?_
  constructor
  · rintro ⟨place, hplace, hfront, hback⟩
    refine ⟨_, _, (List.take_append_drop place entry.1).symm, ?_, hfront, hback⟩
    exact List.ne_nil_of_length_pos (by rw [List.length_drop]; omega)
  · rintro ⟨front, back, hentry, hne, hfront, hback⟩
    refine ⟨front.length, ?_, ?_, ?_⟩
    · rw [hentry, List.length_append]
      exact Nat.lt_add_of_pos_right (List.length_pos_iff.mpr hne)
    · rwa [hentry, List.take_left]
    · rwa [hentry, List.drop_left]

theorem not_straddles_nil (second : Text) : ¬ Straddles [] second := by
  rintro ⟨_, _, _, _, hfront, _⟩
  exact absurd (List.suffix_nil.mp hfront) (List.cons_ne_nil _ _)

/-- An entity that reaches over begins with the first character, or in the text behind it. -/
theorem straddles_cons_iff {c : Char} {rest second : Text} :
    Straddles (c :: rest) second ↔
      (c = '&' ∧ ∃ entry ∈ entityNames, ∃ back, entry.1 = rest ++ back ∧ back ≠ [] ∧
        back <+: second) ∨ Straddles rest second := by
  simp only [straddles_iff, List.suffix_cons_iff]
  constructor
  · rintro ⟨entry, hmem, front, back, hentry, hne, hfront | hfront, hback⟩
    · obtain ⟨rfl, rfl⟩ := List.cons.inj hfront
      exact Or.inl ⟨rfl, entry, hmem, back, hentry, hne, hback⟩
    · exact Or.inr ⟨entry, hmem, front, back, hentry, hne, hfront, hback⟩
  · rintro (⟨rfl, entry, hmem, back, hentry, hne, hback⟩ |
      ⟨entry, hmem, front, back, hentry, hne, hfront, hback⟩)
    · exact ⟨entry, hmem, rest, back, hentry, hne, Or.inl rfl, hback⟩
    · exact ⟨entry, hmem, front, back, hentry, hne, Or.inr hfront, hback⟩

theorem Straddles.append_left {first second : Text} (hstraddles : Straddles first second)
    (before : Text) : Straddles (before ++ first) second := by
  obtain ⟨entry, hmem, place, hplace, hfront, hback⟩ := hstraddles
  exact ⟨entry, hmem, place, hplace, hfront.trans (List.suffix_append _ _), hback⟩

/-- An entity that reaches over cannot begin in a text without ampersands. -/
theorem straddles_append_iff {plain first second : Text} (hplain : '&' ∉ plain) :
    Straddles (plain ++ first) second ↔ Straddles first second := by
  induction plain with
  | nil => rfl
  | cons c plain ih =>
      rw [List.mem_cons, not_or] at hplain
      rw [List.cons_append, straddles_cons_iff, ih hplain.2]
      exact or_iff_right fun hamp => hplain.1 hamp.1.symm

/-- Whether two texts are decoded together as they are decoded apart, or an entity reaches
from one into the other and the text gets shorter. -/
def DecodesTogether (first second : Text) : Prop :=
  (¬ Straddles first second ∧
    decodeEntities (first ++ second) = decodeEntities first ++ decodeEntities second) ∨
  (Straddles first second ∧ (decodeEntities (first ++ second)).length <
    (decodeEntities first).length + (decodeEntities second).length)

/-- It is so as soon as it is so for what follows a character that is decoded by itself. -/
theorem DecodesTogether.of_tail {first tail second : Text} (htail : DecodesTogether tail second)
    (c : Char)
    (hstraddles : Straddles first second ↔ Straddles tail second)
    (hboth : decodeEntities (first ++ second) = c :: decodeEntities (tail ++ second))
    (hfirst : decodeEntities first = c :: decodeEntities tail) :
    DecodesTogether first second := by
  rw [DecodesTogether, hstraddles, hboth, hfirst]
  rcases htail with ⟨hnot, hdecode⟩ | ⟨hreaches, hlt⟩
  · exact Or.inl ⟨hnot, by rw [hdecode, List.cons_append]⟩
  · refine Or.inr ⟨hreaches, ?_⟩
    simp only [List.length_cons]
    omega

/-- A character that is no ampersand begins no entity. -/
theorem DecodesTogether.of_ne {rest second : Text} {c : Char} (hrest : DecodesTogether rest second)
    (hc : c ≠ '&') : DecodesTogether (c :: rest) second := by
  refine hrest.of_tail c ?_ ?_ ?_
  · rw [straddles_cons_iff, or_iff_right]
    exact fun hamp => hc hamp.1
  · rw [decodeEntities_eq_decodeNames, decodeEntities_eq_decodeNames, List.cons_append,
      decodeNames_cons_of_ne hc]
  · rw [decodeEntities_eq_decodeNames, decodeEntities_eq_decodeNames, decodeNames_cons_of_ne hc]

/-- Neither does an ampersand without a name after it. -/
theorem DecodesTogether.of_no_name {rest second : Text} (hrest : DecodesTogether rest second)
    (hread : readName entityNames (rest ++ second) = none) :
    DecodesTogether ('&' :: rest) second := by
  have hnone := readName_eq_none_iff.mp hread
  have hshort : readName entityNames rest = none := by
    refine readName_eq_none_iff.mpr fun entry hmem hentry => ?_
    exact hnone entry hmem (hentry.trans (List.prefix_append rest second))
  refine hrest.of_tail '&' ?_ ?_ ?_
  · rw [straddles_cons_iff, or_iff_right]
    rintro ⟨-, entry, hmem, back, hentry, -, hback⟩
    refine hnone entry hmem ?_
    rw [hentry]
    exact (List.prefix_append_right_inj rest).mpr hback
  · rw [decodeEntities_eq_decodeNames, decodeEntities_eq_decodeNames, List.cons_append,
      decodeNames_of_none hread]
  · rw [decodeEntities_eq_decodeNames, decodeEntities_eq_decodeNames, decodeNames_of_none hshort]

section Read

variable {earlier later : List (Text × Char)} {entry : Text × Char} {rest second tail : Text}
  {d : Char}

/-- The name that is read at an ampersand of the first text ends in this text. -/
theorem DecodesTogether.of_name_within
    (hnames : entityNames = earlier ++ entry :: later)
    (hearlier : ∀ other ∈ earlier, ¬ other.1 <+: entry.1 ++ rest ++ second)
    (htail : DecodesTogether rest second) :
    DecodesTogether ('&' :: (entry.1 ++ rest)) second := by
  have hmem : entry ∈ entityNames := by rw [hnames]; simp
  have hboth : readName entityNames (entry.1 ++ rest ++ second) = some (entry.2, rest ++ second) :=
    readName_eq_some_iff.mpr
      ⟨earlier, entry, later, hnames, rfl, List.append_assoc _ _ _, hearlier⟩
  have hfirst : readName entityNames (entry.1 ++ rest) = some (entry.2, rest) := by
    refine readName_eq_some_iff.mpr ⟨earlier, entry, later, hnames, rfl, rfl, ?_⟩
    exact fun other hother hbegins => hearlier other hother
      (hbegins.trans (List.prefix_append _ second))
  refine htail.of_tail entry.2 ?_ ?_ ?_
  · rw [straddles_cons_iff, straddles_append_iff (ampersand_notMem_of_mem_entityNames hmem),
      or_iff_right]
    rintro ⟨-, other, hother, back, hlong, hne, hback⟩
    -- A name that reached over would be longer, and would have been read.
    have hbegins : other.1 <+: entry.1 ++ rest ++ second := by
      rw [hlong]
      exact (List.prefix_append_right_inj _).mpr hback
    have hentry : entry.1 <+: entry.1 ++ rest ++ second := by
      rw [List.append_assoc]
      exact List.prefix_append _ _
    have hle : other.1.length ≤ entry.1.length :=
      (longestFirst_entityNames.eq_or_length_lt hnames hearlier hentry hother hbegins).elim
        (fun heq => Nat.le_of_eq (heq ▸ rfl)) Nat.le_of_lt
    have hpos := List.length_pos_iff.mpr hne
    rw [hlong, List.length_append, List.length_append] at hle
    omega
  · rw [decodeEntities_eq_decodeNames, decodeEntities_eq_decodeNames, List.cons_append,
      decodeNames_of_some hboth]
  · rw [decodeEntities_eq_decodeNames, decodeEntities_eq_decodeNames, decodeNames_of_some hfirst]

/-- The name that is read at an ampersand of the first text goes on in the second one. -/
theorem DecodesTogether.of_name_across {back : Text} (hmem : entry ∈ entityNames)
    (hentry : entry.1 = rest ++ back) (hne : back ≠ [])
    (hread : readName entityNames (rest ++ (back ++ tail)) = some (d, tail)) :
    DecodesTogether ('&' :: rest) (back ++ tail) := by
  have hplain : '&' ∉ back := fun hamp => by
    refine ampersand_notMem_of_mem_entityNames hmem ?_
    rw [hentry]
    exact List.mem_append_right rest hamp
  have hboth : decodeEntities ('&' :: rest ++ (back ++ tail)) = d :: decodeEntities tail := by
    rw [decodeEntities_eq_decodeNames, decodeEntities_eq_decodeNames, List.cons_append,
      decodeNames_of_some hread]
  have hsecond : decodeEntities (back ++ tail) = back ++ decodeEntities tail := by
    rw [decodeEntities_eq_decodeNames, decodeEntities_eq_decodeNames,
      decodeNames_append_of_notMem hplain]
  have hfirst : 0 < (decodeEntities ('&' :: rest)).length := by
    rw [decodeEntities_eq_decodeNames]
    exact List.length_pos_iff.mpr (decodeNames_cons_ne_nil _ _ _)
  have hpos := List.length_pos_iff.mpr hne
  refine Or.inr ⟨straddles_cons_iff.mpr (Or.inl ⟨rfl, entry, hmem, back, hentry, hne,
    List.prefix_append back tail⟩), ?_⟩
  rw [hboth, hsecond, List.length_cons, List.length_append]
  omega

end Read

/-- Any two texts are decoded together as apart, or get shorter by an entity between them. -/
theorem decodesTogether (first second : Text) : DecodesTogether first second := by
  -- The induction is on the first text: a name that is read takes several of its characters.
  induction hlength : first.length using Nat.strongRecOn generalizing first with
  | ind length ih =>
      subst hlength
      cases first with
      | nil =>
          refine Or.inl ⟨not_straddles_nil second, ?_⟩
          rw [decodeEntities_nil, List.nil_append, List.nil_append]
      | cons c rest =>
          have hrest : DecodesTogether rest second := ih rest.length (by simp) rest rfl
          by_cases hc : c = '&'
          · subst hc
            cases hread : readName entityNames (rest ++ second) with
            | none => exact hrest.of_no_name hread
            | some found =>
                obtain ⟨d, tail⟩ := found
                obtain ⟨earlier, entry, later, hnames, rfl, htext, hearlier⟩ :=
                  readName_eq_some_iff.mp hread
                have hentry : entry.1 <+: rest ++ second := ⟨tail, htext.symm⟩
                -- Where the name ends decides whether it is cut.
                rcases Nat.le_total entry.1.length rest.length with hinside | hover
                · obtain ⟨others, rfl⟩ : entry.1 <+: rest :=
                    List.prefix_of_prefix_length_le hentry (List.prefix_append rest second) hinside
                  have hothers : DecodesTogether others second :=
                    ih others.length (by rw [List.length_cons, List.length_append]; omega) others
                      rfl
                  exact .of_name_within hnames hearlier hothers
                · obtain ⟨back, hback⟩ : rest <+: entry.1 :=
                    List.prefix_of_prefix_length_le (List.prefix_append rest second) hentry hover
                  by_cases hne : back = []
                  · -- The name ends where the first text does.
                    rw [hne, List.append_nil] at hback
                    rw [hback] at hearlier hread ⊢
                    have hnil : DecodesTogether [] second :=
                      ih 0 (Nat.succ_pos _) [] rfl
                    rw [← List.append_nil entry.1] at hearlier ⊢
                    exact .of_name_within hnames hearlier hnil
                  · rw [← hback, List.append_assoc, List.append_cancel_left_eq] at htext
                    subst htext
                    have hmem : entry ∈ entityNames := by rw [hnames]; simp
                    exact .of_name_across hmem hback.symm hne hread
          · exact hrest.of_ne hc

/-- Two texts are decoded together as they are decoded apart exactly if no entity reaches
from one into the other. -/
theorem decodeEntities_append_eq_iff {first second : Text} :
    decodeEntities (first ++ second) = decodeEntities first ++ decodeEntities second ↔
      ¬ Straddles first second := by
  rcases decodesTogether first second with ⟨hnot, hdecode⟩ | ⟨hreaches, hlt⟩
  · exact iff_of_true hdecode hnot
  · refine iff_of_false (fun hdecode => ?_) (not_not_intro hreaches)
    rw [hdecode, List.length_append] at hlt
    exact Nat.lt_irrefl _ hlt

/-- Decoding texts together never gives more characters than decoding them apart. -/
theorem length_decodeEntities_append_le (first second : Text) :
    (decodeEntities (first ++ second)).length ≤
      (decodeEntities first).length + (decodeEntities second).length := by
  rcases decodesTogether first second with ⟨_, hdecode⟩ | ⟨_, hlt⟩
  · exact Nat.le_of_eq (by rw [hdecode, List.length_append])
  · exact Nat.le_of_lt hlt

/-! ## Any number of texts -/

/-- Whether texts in a row cut an entity: it begins in one of them and goes on in the next
ones. -/
def CutsEntity (texts : List Text) : Prop :=
  ∃ place ≤ texts.length, Straddles (texts.take place).flatten (texts.drop place).flatten

instance (texts : List Text) : Decidable (CutsEntity texts) :=
  inferInstanceAs (Decidable (∃ place ≤ texts.length,
    Straddles (texts.take place).flatten (texts.drop place).flatten))

/-- The same for any number of texts. -/
theorem length_decodeEntities_flatten_le (texts : List Text) :
    (decodeEntities texts.flatten).length ≤ (texts.flatMap decodeEntities).length := by
  induction texts with
  | nil => simp
  | cons text rest ih =>
      rw [List.flatten_cons, List.flatMap_cons, List.length_append]
      exact Nat.le_trans (length_decodeEntities_append_le text rest.flatten)
        (Nat.add_le_add_left ih _)

/-- Texts in a row are decoded together as they are decoded one by one exactly if they cut
no entity. -/
theorem decodeEntities_flatten_eq_iff {texts : List Text} :
    decodeEntities texts.flatten = texts.flatMap decodeEntities ↔ ¬ CutsEntity texts := by
  constructor
  · rintro hdecode ⟨place, -, hreaches⟩
    -- At the cut the whole is shorter, and elsewhere it is no longer.
    have hlt : (decodeEntities texts.flatten).length < (texts.flatMap decodeEntities).length := by
      have hfront := length_decodeEntities_flatten_le (texts.take place)
      have hback := length_decodeEntities_flatten_le (texts.drop place)
      rcases decodesTogether (texts.take place).flatten (texts.drop place).flatten with
        ⟨hnot, _⟩ | ⟨_, hlt⟩
      · exact absurd hreaches hnot
      · rw [← List.flatten_append, List.take_append_drop] at hlt
        rw [← List.take_append_drop place texts, List.flatMap_append, List.length_append,
          List.take_append_drop]
        omega
    rw [hdecode] at hlt
    exact Nat.lt_irrefl _ hlt
  · intro hnot
    induction texts with
    | nil => exact decodeEntities_nil
    | cons text rest ih =>
        have hfirst : ¬ Straddles text rest.flatten := fun hreaches => by
          refine hnot ⟨1, by simp, ?_⟩
          simpa using hreaches
        have hrest : ¬ CutsEntity rest := by
          rintro ⟨place, hplace, hreaches⟩
          refine hnot ⟨place + 1, Nat.succ_le_succ hplace, ?_⟩
          rw [List.take_succ_cons, List.drop_succ_cons, List.flatten_cons]
          exact hreaches.append_left text
        rw [List.flatten_cons, List.flatMap_cons, decodeEntities_append_eq_iff.mpr hfirst,
          ih hrest]

end DocPress
