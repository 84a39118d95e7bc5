import TextRecipes.Language.Suffix
import TextRecipes.Proofs.Text.Padding

/-!
# Stems and endings

A word ends in a suffix if its last characters, as many as the suffix has, read like it in lower
case; the stem is what stands before them (`stem?_eq_some_iff`). They are the slices of the word at
an offset between two characters (`stem?_eq_slices`).

A table goes by the first of its rules that applies, and falls back on its default suffix
(`SuffixTable.Makes`, `SuffixTable.first_rule_counts`). Whatever it makes of a word, the word keeps
its first character: a rule must leave a stem, and words of one character do not change.
-/

namespace TextRecipes.Language

variable {word suffix stem ending changed : String} {cs ds : List Char}

/-! ## Stems -/

theorem lower_eq_lower_iff {s t : String} : Text.lower s = Text.lower t ↔
    Text.lowerChars s.toList = Text.lowerChars t.toList :=
  String.ofList_inj

/-- A word is cut where as many characters are left as the suffix has, and the cut counts if they
are the suffix in lower case. -/
theorem stemChars?_append (hne : ds ≠ []) (hlength : cs.length = ds.length) (before : List Char) :
    stemChars? (before ++ cs) ds
      = if Text.lowerChars cs = Text.lowerChars ds then some before else none := by
  have hcut : (before ++ cs).length - ds.length = before.length := by
    rw [List.length_append, hlength, Nat.add_sub_cancel]
  -- the guard is for words that are too short to be cut there
  have hguard : ¬ (ds.isEmpty || decide ((before ++ cs).length < ds.length)) = true := by
    simp [hne, hlength]
  simp only [stemChars?, if_neg hguard, hcut, List.drop_left, List.take_left, beq_iff_eq]

/-- The last characters, as many as the suffix has, decide. -/
theorem stem?_append (hne : suffix ≠ "") (hlength : ending.length = suffix.length)
    (before : String) :
    stem? (before ++ ending) suffix
      = if Text.lower ending = Text.lower suffix then some before else none := by
  have hchars : suffix.toList ≠ [] := by simpa using hne
  have hlengths : ending.toList.length = suffix.toList.length := by
    rw [String.length_toList, String.length_toList, hlength]
  rw [stem?, String.toList_append, stemChars?_append hchars hlengths]
  simp only [lower_eq_lower_iff]
  split <;> simp

/-- Words that are too short have no stem, and no word ends in the empty suffix. -/
theorem stem?_of_short (h : suffix = "" ∨ word.length < suffix.length) :
    stem? word suffix = none := by
  have hguard : (suffix.toList.isEmpty
      || decide (word.toList.length < suffix.toList.length)) = true := by
    rcases h with rfl | hshort
    · rfl
    · simp [String.length_toList, hshort]
  rw [stem?, stemChars?, if_pos hguard]
  rfl

/-- A word has an ending of every length up to its own. -/
theorem exists_ending (h : suffix.length ≤ word.length) :
    ∃ before ending, word = before ++ ending ∧ ending.length = suffix.length := by
  refine ⟨String.ofList (word.toList.take (word.length - suffix.length)),
    String.ofList (word.toList.drop (word.length - suffix.length)), ?_, ?_⟩
  · rw [← String.ofList_append, List.take_append_drop, String.ofList_toList]
  · rw [String.length_ofList, List.length_drop, String.length_toList]
    omega

/-- **The stem is the word without an ending** that has as many characters as the suffix and is the
same in lower case. -/
theorem stem?_eq_some_iff : stem? word suffix = some stem ↔
    suffix ≠ "" ∧ ∃ ending, word = stem ++ ending ∧ ending.length = suffix.length ∧
      Text.lower ending = Text.lower suffix := by
  constructor
  · intro h
    have hlong : ¬ (suffix = "" ∨ word.length < suffix.length) := by
      intro hshort
      rw [stem?_of_short hshort] at h
      cases h
    obtain ⟨hne, hle⟩ := not_or.mp hlong
    -- only one cut leaves an ending of this length
    obtain ⟨before, ending, rfl, hlength⟩ := exists_ending (Nat.le_of_not_lt hle)
    rw [stem?_append hne hlength] at h
    split at h
    · next hlower =>
        cases h
        exact ⟨hne, ending, rfl, hlength, hlower⟩
    · cases h
  · rintro ⟨hne, ending, rfl, hlength, hlower⟩
    rw [stem?_append hne hlength, if_pos hlower]

/-- **A word is cut between characters** to be compared with a suffix. -/
theorem stem?_eq_slices (hne : suffix ≠ "") (hle : suffix.length ≤ word.length) :
    ∃ cut : word.Pos, (word.sliceFrom cut).copy.length = suffix.length ∧
      stem? word suffix
        = if Text.lower (word.sliceFrom cut).copy = Text.lower suffix
          then some (word.sliceTo cut).copy else none := by
  obtain ⟨before, ending, hword, hlength⟩ := exists_ending hle
  obtain ⟨cut, -, hsplits⟩ := Text.exists_pos_splits hword
  refine ⟨cut, ?_, ?_⟩ <;>
    rw [← hsplits.eq_right cut.splits]
  · exact hlength
  · rw [← hsplits.eq_left cut.splits, ← stem?_append hne hlength, ← hword]

/-! ## Tables -/

/-- A rule applies to a word: its suffix is not empty and has fewer characters than the word, and
the last characters of the word, as many as the suffix has, are the same in lower case. Before them
stands `stem`. -/
structure SuffixRule.Applies (rule : SuffixRule) (word stem : String) : Prop where
  suffix_ne : rule.suffix ≠ ""
  shorter : rule.suffix.length < word.length
  ends : ∃ ending, word = stem ++ ending ∧ ending.length = rule.suffix.length ∧
    Text.lower ending = Text.lower rule.suffix

/-- The last character of a word is an `e`, small or capital. Before it stands `stem`. -/
def EndsInE (word stem : String) : Prop :=
  ∃ ending, word = stem ++ ending ∧ ending.length = 1 ∧ Text.lower ending = "e"

/-- What a table makes of a word. -/
inductive SuffixTable.Makes (table : SuffixTable) (word : String) : String → Prop
  /-- A word of at most one character stays as it is. -/
  | short (hshort : word.length ≤ 1) : Makes table word word
  /-- The first rule that applies puts its replacement behind the stem. -/
  | byRule {before after : List SuffixRule} {rule : SuffixRule} {stem : String}
      (hlong : 1 < word.length) (hrules : table.rules = before ++ rule :: after)
      (hbefore : ∀ earlier ∈ before, ∀ stem, ¬ earlier.Applies word stem)
      (happlies : rule.Applies word stem) : Makes table word (stem ++ rule.replacement)
  /-- If no rule applies, a word loses a final `e` to the default suffix. -/
  | withoutE {stem : String} (hlong : 1 < word.length)
      (hnone : ∀ rule ∈ table.rules, ∀ stem, ¬ rule.Applies word stem)
      (hends : EndsInE word stem) : Makes table word (stem ++ table.defaultSuffix)
  /-- Any other word gets the default suffix. -/
  | plain (hlong : 1 < word.length)
      (hnone : ∀ rule ∈ table.rules, ∀ stem, ¬ rule.Applies word stem)
      (hends : ∀ stem, ¬ EndsInE word stem) : Makes table word (word ++ table.defaultSuffix)

variable {rule : SuffixRule} {table : SuffixTable}

/-! ### Rules that apply -/

theorem SuffixRule.Applies.stem_ne (h : rule.Applies word stem) : stem ≠ "" := by
  rintro rfl
  obtain ⟨ending, rfl, hlength, -⟩ := h.ends
  have hshorter := h.shorter
  rw [String.empty_append, hlength] at hshorter
  omega

/-- A rule applies where the word ends in its suffix and a stem is left. -/
theorem SuffixRule.applies_iff :
    rule.Applies word stem ↔ stem? word rule.suffix = some stem ∧ stem ≠ "" := by
  rw [stem?_eq_some_iff]
  constructor
  · intro h
    exact ⟨⟨h.suffix_ne, h.ends⟩, h.stem_ne⟩
  · rintro ⟨⟨hsuffix, ending, rfl, hlength, hlower⟩, hne⟩
    refine ⟨hsuffix, ?_, ending, rfl, hlength, hlower⟩
    have hstem : stem.length ≠ 0 := by simpa [String.length_eq_zero_iff] using hne
    rw [String.length_append, hlength]
    omega

/-- A rule replaces the suffix of a word just if it applies. -/
theorem SuffixRule.replace?_eq_some_iff : rule.replace? word = some changed ↔
    ∃ stem, rule.Applies word stem ∧ changed = stem ++ rule.replacement := by
  simp only [applies_iff, replace?]
  cases stem? word rule.suffix with
  | none => simp
  | some found =>
      dsimp only
      split
      · next hempty =>
          -- the rule would use up the word
          have hfound : found = "" := by simpa using hempty
          simp [hfound]
      · next hfound =>
          constructor
          · rintro ⟨⟩
            exact ⟨found, ⟨rfl, by simpa using hfound⟩, rfl⟩
          · rintro ⟨stem, ⟨⟨⟩, -⟩, rfl⟩
            rfl

theorem SuffixRule.replace?_eq_none_iff :
    rule.replace? word = none ↔ ∀ stem, ¬ rule.Applies word stem := by
  rw [Option.eq_none_iff_forall_ne_some]
  constructor
  · intro h stem happlies
    exact h _ (replace?_eq_some_iff.mpr ⟨stem, happlies, rfl⟩)
  · intro h changed hchanged
    obtain ⟨stem, happlies, -⟩ := replace?_eq_some_iff.mp hchanged
    exact h stem happlies

/-- **The first rule that applies** is the one that a table uses. -/
theorem SuffixTable.findSome?_eq_some_iff :
    table.rules.findSome? (·.replace? word) = some changed ↔
      ∃ before rule after stem, table.rules = before ++ rule :: after ∧
        (∀ earlier ∈ before, ∀ stem, ¬ earlier.Applies word stem) ∧
        rule.Applies word stem ∧ changed = stem ++ rule.replacement := by
  rw [List.findSome?_eq_some_iff]
  constructor
  · rintro ⟨before, rule, after, hrules, hchanged, hbefore⟩
    obtain ⟨stem, happlies, hword⟩ := SuffixRule.replace?_eq_some_iff.mp hchanged
    refine ⟨before, rule, after, stem, hrules, ?_, happlies, hword⟩
    intro earlier hmem
    exact SuffixRule.replace?_eq_none_iff.mp (hbefore earlier hmem)
  · rintro ⟨before, rule, after, stem, hrules, hbefore, happlies, hword⟩
    refine ⟨before, rule, after, hrules, ?_, ?_⟩
    · exact SuffixRule.replace?_eq_some_iff.mpr ⟨stem, happlies, hword⟩
    · intro earlier hmem
      exact SuffixRule.replace?_eq_none_iff.mpr (hbefore earlier hmem)

theorem SuffixTable.findSome?_eq_none_iff :
    table.rules.findSome? (·.replace? word) = none ↔
      ∀ rule ∈ table.rules, ∀ stem, ¬ rule.Applies word stem := by
  simp only [List.findSome?_eq_none_iff, SuffixRule.replace?_eq_none_iff]

/-! ### Words without a rule -/

theorem EndsInE.stem_ne (h : EndsInE word stem) (hlong : 1 < word.length) : stem ≠ "" := by
  rintro rfl
  obtain ⟨ending, rfl, hlength, -⟩ := h
  rw [String.empty_append, hlength] at hlong
  omega

theorem stem?_e_eq_some_iff : stem? word "e" = some stem ↔ EndsInE word stem := by
  have hlower : Text.lower "e" = "e" := by decide +kernel
  rw [stem?_eq_some_iff, hlower]
  exact and_iff_right (by decide)

theorem stem?_e_eq_none_iff : stem? word "e" = none ↔ ∀ stem, ¬ EndsInE word stem := by
  rw [Option.eq_none_iff_forall_ne_some]
  simp only [ne_eq, stem?_e_eq_some_iff]

/-! ### What a table makes -/

/-- On words of two characters or more the first rule that replaces something counts, and then the
default suffix. -/
theorem SuffixTable.apply_of_long (hlong : 1 < word.length) :
    table.apply word = (table.rules.findSome? (·.replace? word)).getD
      ((stem? word "e").getD word ++ table.defaultSuffix) := by
  have hnot : ¬ word.toList.length ≤ 1 := by
    rw [String.length_toList]
    omega
  rw [apply, if_neg hnot]
  cases table.rules.findSome? (·.replace? word) <;> rfl

/-- Every word becomes something by one of the three ways. -/
theorem SuffixTable.makes_apply (table : SuffixTable) (word : String) :
    table.Makes word (table.apply word) := by
  by_cases hlong : 1 < word.length
  · rw [apply_of_long hlong]
    -- the rules come first, and the final `e` is asked for only after them
    cases hrules : table.rules.findSome? (·.replace? word) with
    | some changed =>
        obtain ⟨_, _, _, _, hsplit, hbefore, happlies, rfl⟩ := findSome?_eq_some_iff.mp hrules
        exact .byRule hlong hsplit hbefore happlies
    | none =>
        have hnone := findSome?_eq_none_iff.mp hrules
        cases hstem : stem? word "e" with
        | some stem => exact .withoutE hlong hnone (stem?_e_eq_some_iff.mp hstem)
        | none => exact .plain hlong hnone (stem?_e_eq_none_iff.mp hstem)
  · have hshort : word.length ≤ 1 := Nat.le_of_not_lt hlong
    have hsame : table.apply word = word := if_pos (by rwa [String.length_toList])
    rw [hsame]
    exact .short hshort

/-- And the way tells what it becomes. -/
theorem SuffixTable.Makes.apply_eq (h : table.Makes word changed) : table.apply word = changed := by
  cases h with
  | short hshort => exact if_pos (by rwa [String.length_toList])
  | byRule hlong hrules hbefore happlies =>
      have hfirst := findSome?_eq_some_iff.mpr ⟨_, _, _, _, hrules, hbefore, happlies, rfl⟩
      rw [apply_of_long hlong, hfirst, Option.getD_some]
  | withoutE hlong hnone hends =>
      rw [apply_of_long hlong, findSome?_eq_none_iff.mpr hnone, Option.getD_none,
        stem?_e_eq_some_iff.mpr hends, Option.getD_some]
  | plain hlong hnone hends =>
      rw [apply_of_long hlong, findSome?_eq_none_iff.mpr hnone, Option.getD_none,
        stem?_e_eq_none_iff.mpr hends, Option.getD_none]

/-! ### The first character -/

/-- Words that have a stem in common begin alike. -/
theorem head?_append_congr (hne : stem ≠ "") (ending ending' : String) :
    (stem ++ ending).toList.head? = (stem ++ ending').toList.head? := by
  have hchars : stem.toList ≠ [] := by simpa using hne
  rw [String.toList_append, String.toList_append, List.head?_append_of_ne_nil _ hchars,
    List.head?_append_of_ne_nil _ hchars]

/-- Whatever way it is, a stem is left, and so the first character. -/
theorem SuffixTable.Makes.head?_eq (h : table.Makes word changed) :
    changed.toList.head? = word.toList.head? := by
  cases h with
  | short hshort => rfl
  | byRule hlong hrules hbefore happlies =>
      have hne := happlies.stem_ne
      obtain ⟨ending, rfl, -, -⟩ := happlies.ends
      exact head?_append_congr hne _ _
  | withoutE hlong hnone hends =>
      have hne := hends.stem_ne hlong
      obtain ⟨ending, rfl, -, -⟩ := hends
      exact head?_append_congr hne _ _
  | plain hlong hnone hends =>
      -- the word has a character to begin with, since it has at least two
      rw [String.toList_append, List.head?_append_of_ne_nil]
      intro hnil
      rw [← String.length_toList, hnil] at hlong
      exact absurd hlong (by decide)

/-- **A word keeps its first character**, whatever the table. -/
theorem SuffixTable.head?_apply (table : SuffixTable) (word : String) :
    (table.apply word).toList.head? = word.toList.head? :=
  (table.makes_apply word).head?_eq

/-- **What a table makes of a word.** The first rule that applies decides, and a rule applies only
if it leaves a stem, so that one which would use up the word is passed over for a later one. If none
applies, the default suffix takes the place of a final `e`, or comes behind the word. A stem is what
is left of a word without its last characters, as many as the suffix has, if they are the same in
lower case. In the end the word begins as it did. -/
theorem SuffixTable.first_rule_counts (table : SuffixTable) :
    (∀ word changed, table.apply word = changed ↔ table.Makes word changed) ∧
    (∀ word suffix stem, stem? word suffix = some stem ↔
      suffix ≠ "" ∧ suffix.length ≤ word.length ∧ ∃ ending, word = stem ++ ending ∧
        ending.length = suffix.length ∧ Text.lower ending = Text.lower suffix) ∧
    ∀ word, (table.apply word).toList.head? = word.toList.head? := by
  refine ⟨?_, ?_, table.head?_apply⟩
  · intro word changed
    constructor
    · rintro rfl
      exact table.makes_apply word
    · intro h
      exact h.apply_eq
  · intro word suffix stem
    rw [stem?_eq_some_iff]
    refine and_congr_right fun _ => (and_iff_right_of_imp ?_).symm
    rintro ⟨ending, rfl, hlength, -⟩
    rw [String.length_append, hlength]
    omega

/-- The first rule would leave nothing of the word. -/
example : (SuffixTable.mk [⟨"ULM", "x"⟩, ⟨"m", "mer"⟩] "er").apply "Ulm" = "Ulmer" := by
  decide +kernel

end TextRecipes.Language
