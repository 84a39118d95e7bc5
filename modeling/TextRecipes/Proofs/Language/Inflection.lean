import Mathlib.Logic.ExistsUnique
import TextRecipes.Language.Inflection
import TextRecipes.Proofs.Language.Suffixes

/-!
# Inhabitant names and genitives

Both change a text by a change of its word, or not at all if none is known for the locale
(`demonym_eq_inside`, `genitive_eq_inside`). So they act inside the blanks (`actsInside_demonym`,
`actsInside_genitive`), and what they do is told on words without blanks around them: a genitive
adds one of the endings of its language, and an inhabitant name follows a table of suffixes.
-/

namespace TextRecipes.Language

open Text

variable {w : String}

/-! ## Which change is made -/

/-- A change of words as a change of texts. If none is known, every text stays as it is. -/
def inside (change : Option (String → String)) : String → String :=
  change.elim (fun s => s) changeInside

/-- The table of inhabitant names for a locale: that of its rules, or else the one that is built in
for its language. -/
def demonymTable? (rules : Rules) (locale : String) : Option SuffixTable :=
  ((rules.forLocale locale).bind (·.demonyms)).or (builtinDemonyms? (baseLanguage locale))

/-- Two languages have a table that is built in, and it serves the locales whose rules have none. -/
theorem demonymTable?_eq_some {rules : Rules} {locale : String} {table : SuffixTable} :
    demonymTable? rules locale = some table ↔
      (rules.forLocale locale).bind (·.demonyms) = some table ∨
      (rules.forLocale locale).bind (·.demonyms) = none ∧
        (baseLanguage locale = "de" ∧ table = germanDemonyms ∨
          baseLanguage locale = "en" ∧ table = englishDemonyms) := by
  unfold demonymTable? builtinDemonyms?
  cases (rules.forLocale locale).bind (·.demonyms) with
  | some own => simp
  | none =>
      by_cases hde : baseLanguage locale = "de"
      · simp [hde, eq_comm]
      · by_cases hen : baseLanguage locale = "en"
        · simp [hen, eq_comm]
        · simp [hde, hen]

/-- The genitive of a word in a language, if it is known. -/
def genitiveOf? (language : String) : Option (String → String) :=
  if language = "de" then some germanGenitive
  else if language = "en" then some englishPossessive
  else none

/-- The name of inhabitants is made by a table, if there is one for the locale. -/
theorem demonym_eq_inside (rules : Rules) (locale : String) :
    demonym rules locale = inside ((demonymTable? rules locale).map (·.apply)) := by
  funext s
  unfold demonym demonymTable?
  cases (rules.forLocale locale).bind (·.demonyms) with
  | some table => rfl
  | none => cases builtinDemonyms? (baseLanguage locale) <;> rfl

/-- The genitive is made by the rule of the base language, if there is one. -/
theorem genitive_eq_inside (locale : String) :
    genitive locale = inside (genitiveOf? (baseLanguage locale)) := by
  funext s
  unfold genitive genitiveOf?
  by_cases hde : baseLanguage locale = "de"
  · simp [hde, inside]
  · by_cases hen : baseLanguage locale = "en" <;> simp [hde, hen, inside]

/-! ## Inside the blanks -/

/-- A change of words acts inside the blanks, whatever it does to the words. -/
theorem actsInside_inside (change : Option (String → String)) : ActsInside (inside change) := by
  cases change with
  | none => exact actsInside_self
  | some change => exact actsInside_changeInside change

theorem actsInside_demonym (rules : Rules) (locale : String) :
    ActsInside (demonym rules locale) := by
  rw [demonym_eq_inside]
  exact actsInside_inside _

theorem actsInside_genitive (locale : String) : ActsInside (genitive locale) := by
  rw [genitive_eq_inside]
  exact actsInside_inside _

/-! ## On a word -/

theorem inside_of_trimmed (hw : Trimmed w.toList) (hne : w ≠ "")
    (change : Option (String → String)) : inside change w = change.elim w (· w) := by
  cases change with
  | none => rfl
  | some change => exact changeInside_of_trimmed hw hne change

/-- On a word without blanks around it the table is all there is to it. -/
theorem demonym_of_trimmed (hw : Trimmed w.toList) (hne : w ≠ "") (rules : Rules)
    (locale : String) :
    demonym rules locale w = (demonymTable? rules locale).elim w (·.apply w) := by
  rw [demonym_eq_inside, inside_of_trimmed hw hne]
  cases demonymTable? rules locale <;> rfl

/-- A table changes endings only. -/
theorem head?_demonym (hw : Trimmed w.toList) (hne : w ≠ "") (rules : Rules) (locale : String) :
    (demonym rules locale w).toList.head? = w.toList.head? := by
  rw [demonym_of_trimmed hw hne]
  cases demonymTable? rules locale with
  | none => rfl
  | some table => exact table.head?_apply w

/-- A word that gets one ending or the other gets one of them only. -/
theorem existsUnique_ending (b : Bool) (w short long : String) :
    ∃! ending, ending ∈ [short, long] ∧ (if b then w ++ short else w ++ long) = w ++ ending := by
  have hending : (if b then w ++ short else w ++ long) = w ++ (if b then short else long) := by
    cases b <;> rfl
  rw [hending]
  refine ⟨if b then short else long, ⟨?_, rfl⟩, ?_⟩
  · cases b <;> simp
  · rintro other ⟨-, hother⟩
    exact ((String.append_right_inj w).mp hother).symm

/-! ## The two changes as a whole -/

/-- **Inhabitant names and genitives act on the word inside the blanks**, for any rules and locale.
Blanks around a word are kept and blank text is left alone. So is every text in a language without a
genitive, or in a locale without a table of inhabitant names: such a table is that of the rules, or
else the one that is built in for German and for English. The word is cut from its blanks, and its
stem from its ending, between characters. A word gets exactly one ending of the genitive, and the
inhabitant name that the table makes of it, which begins like the word. -/
theorem inflection_inside_blanks (rules : Rules) (locale : String) :
    ActsInside (demonym rules locale) ∧ ActsInside (genitive locale) ∧
    (baseLanguage locale ≠ "de" → baseLanguage locale ≠ "en" → ∀ s, genitive locale s = s) ∧
    (demonymTable? rules locale = none → ∀ s, demonym rules locale s = s) ∧
    (∀ table, demonymTable? rules locale = some table ↔
      (rules.forLocale locale).bind (·.demonyms) = some table ∨
      (rules.forLocale locale).bind (·.demonyms) = none ∧
        (baseLanguage locale = "de" ∧ table = germanDemonyms ∨
          baseLanguage locale = "en" ∧ table = englishDemonyms)) ∧
    (∀ s : String, trim s ≠ "" → ∃ start stop : s.Pos,
      start.offset.byteIdx = insideStart s ∧ stop.offset.byteIdx = insideEnd s ∧
      demonym rules locale s
        = (s.sliceTo start).copy ++ demonym rules locale (trim s) ++ (s.sliceFrom stop).copy ∧
      genitive locale s
        = (s.sliceTo start).copy ++ genitive locale (trim s) ++ (s.sliceFrom stop).copy) ∧
    (∀ word suffix : String, suffix ≠ "" → suffix.length ≤ word.length →
      ∃ cut : word.Pos, (word.sliceFrom cut).copy.length = suffix.length ∧
        stem? word suffix
          = if lower (word.sliceFrom cut).copy = lower suffix
            then some (word.sliceTo cut).copy else none) ∧
    ∀ w : String, Trimmed w.toList → w ≠ "" →
      (baseLanguage locale = "de" →
        ∃! ending, ending ∈ ["'", "s"] ∧ genitive locale w = w ++ ending) ∧
      (baseLanguage locale = "en" →
        ∃! ending, ending ∈ ["'", "'s"] ∧ genitive locale w = w ++ ending) ∧
      (∀ table, demonymTable? rules locale = some table →
        demonym rules locale w = table.apply w) ∧
      (demonym rules locale w).toList.head? = w.toList.head? := by
  refine ⟨actsInside_demonym rules locale, actsInside_genitive locale, ?_, ?_,
    fun _ => demonymTable?_eq_some, ?_, ?_, ?_⟩
  · intro hde hen s
    rw [genitive_eq_inside, genitiveOf?, if_neg hde, if_neg hen]
    rfl
  · intro hnone s
    rw [demonym_eq_inside, hnone]
    rfl
  · intro s hs
    -- the offsets are those of the text, so they are the same for both changes
    obtain ⟨start, stop, hstart, hstop, hslices⟩ := ActsInside.exists_slices hs
    exact ⟨start, stop, hstart, hstop, hslices _ (actsInside_demonym rules locale),
      hslices _ (actsInside_genitive locale)⟩
  · intro word suffix hne hle
    exact stem?_eq_slices hne hle
  · intro w hw hne
    refine ⟨?_, ?_, ?_, head?_demonym hw hne rules locale⟩
    · intro hde
      rw [genitive_eq_inside, inside_of_trimmed hw hne, hde]
      exact existsUnique_ending _ w "'" "s"
    · intro hen
      rw [genitive_eq_inside, inside_of_trimmed hw hne, hen]
      exact existsUnique_ending _ w "'" "'s"
    · intro table htable
      rw [demonym_of_trimmed hw hne, htable]
      rfl

/-- Rules with a table for French, which serves the locales of French without one of their own. -/
def frenchRules : Rules where
  locales := .ofPairs [("fr", { demonyms := some ⟨[⟨"lle", "llois"⟩, ⟨"is", "isien"⟩], "ien"⟩ })]

/-- Paris gets its ending from the rules, Hamburg from the table that is built in, and the genitive
of Paris a bare apostrophe. -/
theorem paris_and_hamburg_inside_blanks :
    demonym frenchRules "fr-CA" ("\u2003\t" ++ "Paris" ++ "\u3000") = "\u2003\tParisien\u3000" ∧
    demonym frenchRules "de-AT" ("\u2003\t" ++ "Hamburg" ++ "\u3000")
      = "\u2003\tHamburger\u3000" ∧
    genitive "de-AT" ("\u2003\t" ++ "Paris" ++ "\u3000") = "\u2003\tParis'\u3000" ∧
    genitive "fr-CA" "Paris" = "Paris" := by
  have hfront : ∀ c ∈ "\u2003\t".toList, isBlank c = true := List.all_eq_true.mp (by decide)
  have hbehind : ∀ c ∈ "\u3000".toList, isBlank c = true := List.all_eq_true.mp (by decide)
  have hparis : Trimmed "Paris".toList := by decide
  have hhamburg : Trimmed "Hamburg".toList := by decide
  obtain ⟨hfrench, -, hnone, -, -, -, -, hword⟩ := inflection_inside_blanks frenchRules "fr-CA"
  obtain ⟨hgerman, hgenitive, -, -, htable, -, -, hword'⟩ :=
    inflection_inside_blanks frenchRules "de-AT"
  refine ⟨?_, ?_, ?_, hnone (by decide) (by decide) "Paris"⟩
  · -- the table of the rules
    obtain ⟨-, -, happly, -⟩ := hword "Paris" hparis (by decide)
    rw [hfrench.around hfront hbehind hparis (by decide),
      happly ⟨[⟨"lle", "llois"⟩, ⟨"is", "isien"⟩], "ien"⟩ (by decide +kernel)]
    decide +kernel
  · -- the rules have no table for German, so the one that is built in is used
    obtain ⟨-, -, happly, -⟩ := hword' "Hamburg" hhamburg (by decide)
    rw [hgerman.around hfront hbehind hhamburg (by decide),
      happly germanDemonyms ((htable _).mpr (.inr ⟨by decide +kernel, .inl ⟨by decide, rfl⟩⟩))]
    decide +kernel
  · rw [hgenitive.around hfront hbehind hparis (by decide)]
    decide +kernel

end TextRecipes.Language
