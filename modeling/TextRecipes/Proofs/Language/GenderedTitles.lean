import Mathlib.Data.List.Basic
import TextRecipes.Proofs.Language.Inflection
import TextRecipes.Transform

/-!
# Titles with blanks around them

A title is adapted to a gender by a form that the rules list for it, or else by the regular form
with the feminine suffix. Unlike inhabitant names and genitives, it is looked up with the blanks
around it, and the suffix goes behind them. So a listed form is missed, and the regular form ends in
the suffix with blanks in front of it.

If the rules themselves list titles and suffixes without blanks around them (`LocaleRules.Tidy`),
blanks around a title do no harm exactly where its listed form is the regular one, and no suffix is
to be added behind blanks (`LocaleRules.Tidy.titleFor_around_iff`).
-/

namespace TextRecipes.Language

open Text

variable {p w q key suffix : String} {tables : LocaleRules} {ps cs qs : List Char}

/-! ## Suffixes and blanks -/

/-- A suffix that ends in no blank is not found behind blanks. -/
theorem not_isSuffix_append_of_blank (hlast : ∀ c ∈ cs.getLast?, isBlank c = false) (hcs : cs ≠ [])
    (hblank : ∀ c ∈ qs, isBlank c = true) (hqs : qs ≠ []) (title : List Char) :
    ¬ cs <:+ title ++ qs := by
  rintro ⟨front, heq⟩
  have hsame : cs.getLast? = qs.getLast? := by
    rw [← List.getLast?_append_of_ne_nil front hcs, heq, List.getLast?_append_of_ne_nil _ hqs]
  have hmem : qs.getLast hqs ∈ cs.getLast? := by
    rw [hsame, List.getLast?_eq_some_getLast hqs]
    rfl
  have htrue := hblank _ (List.getLast_mem hqs)
  rw [hlast _ hmem] at htrue
  cases htrue

/-- A suffix that begins with no blank does not reach over blanks in front of a title. -/
theorem isSuffix_append_iff_of_blank (hfirst : ∀ c ∈ cs.head?, isBlank c = false)
    (hblank : ∀ c ∈ ps, isBlank c = true) (title : List Char) :
    cs <:+ ps ++ title ↔ cs <:+ title := by
  refine ⟨fun h => ?_, fun h => h.trans (List.suffix_append ps title)⟩
  rcases List.suffix_or_suffix_of_suffix h (List.suffix_append ps title) with hcs | ⟨more, rfl⟩
  · exact hcs
  · obtain ⟨front, heq⟩ := h
    rw [← List.append_assoc, List.append_cancel_right_eq] at heq
    cases more with
    | nil => exact List.suffix_rfl
    | cons c rest =>
        have htrue : isBlank c = true := by
          apply hblank
          rw [← heq]
          simp
        rw [hfirst c rfl] at htrue
        cases htrue

/-- Behind blanks the suffix is not recognised, and is appended once more. -/
theorem appendSuffix_append_of_blank (hsuffix : Trimmed suffix.toList) (hne : suffix ≠ "")
    (hq : ∀ c ∈ q.toList, isBlank c = true) (hqne : q ≠ "") (title : String) :
    appendSuffix (title ++ q) suffix = title ++ q ++ suffix := by
  have hnot : ¬ suffix.toList <:+ title.toList ++ q.toList :=
    not_isSuffix_append_of_blank hsuffix.last (by simpa using hne) hq (by simpa using hqne) _
  rw [appendSuffix, String.toList_append, if_neg (by rwa [List.isSuffixOf_iff_suffix])]

/-- Blanks in front do not matter to a suffix. -/
theorem appendSuffix_blank_append (hsuffix : Trimmed suffix.toList)
    (hp : ∀ c ∈ p.toList, isBlank c = true) (title : String) :
    appendSuffix (p ++ title) suffix = p ++ appendSuffix title suffix := by
  have hiff : suffix.toList <:+ p.toList ++ title.toList ↔ suffix.toList <:+ title.toList :=
    isSuffix_append_iff_of_blank hsuffix.first hp _
  simp only [appendSuffix, String.toList_append, List.isSuffixOf_iff_suffix, hiff]
  split
  · rfl
  · rw [String.append_assoc]

theorem appendSuffix_empty (title : String) : appendSuffix title "" = title := by
  rw [appendSuffix, if_pos (by simp)]

/-! ## The form of a title -/

/-- The form of a title that the rules do not list. -/
def LocaleRules.regularForm (tables : LocaleRules) (key title : String) : String :=
  match tables.feminineSuffix with
  | some suffix => if key = "f" then appendSuffix title suffix else title
  | none => title

/-- The form of a title for a gender. -/
def LocaleRules.titleFor (tables : LocaleRules) (key title : String) : String :=
  (tables.genderedTitle title key).getD (tables.regularForm key title)

theorem genderAdapt_eq_elim (rules : Rules) (locale gender title : String) :
    genderAdapt rules locale gender title
      = (rules.forLocale locale).elim title (·.titleFor (normalizeGender gender) title) := by
  unfold genderAdapt
  cases rules.forLocale locale with
  | none => rfl
  | some tables =>
      simp only [Option.elim_some, LocaleRules.titleFor, LocaleRules.regularForm]
      cases tables.genderedTitle title (normalizeGender gender) with
      | some form => rfl
      | none => cases tables.feminineSuffix <;> simp

/-- The titles that are listed and the feminine suffix have no blanks around them. -/
structure LocaleRules.Tidy (tables : LocaleRules) : Prop where
  titles : ∀ e ∈ tables.genderTitles.entries, Trimmed e.1.toList
  suffix : ∀ suffix ∈ tables.feminineSuffix, Trimmed suffix.toList

/-- The listed form of a title is the regular one, and no feminine suffix comes behind blanks that
follow the title. -/
structure LocaleRules.RegularAt (tables : LocaleRules) (key w q : String) : Prop where
  form : ∀ form, tables.genderedTitle w key = some form → form = tables.regularForm key w
  suffix : key = "f" → ∀ suffix, tables.feminineSuffix = some suffix → suffix ≠ "" → q = ""

namespace LocaleRules

theorem Tidy.genderedTitle_around (h : tables.Tidy) (hp : ∀ c ∈ p.toList, isBlank c = true)
    (hq : ∀ c ∈ q.toList, isBlank c = true) (hw : Trimmed w.toList) (hne : w ≠ "")
    (hblanks : ¬ (p = "" ∧ q = "")) : tables.genderedTitle (p ++ w ++ q) key = none := by
  unfold genderedTitle
  cases hget : tables.genderTitles.get? (p ++ w ++ q) with
  | none => rfl
  | some forms =>
      have hchars : w.toList ≠ [] := by simpa using hne
      have hall : Trimmed (p.toList ++ w.toList ++ q.toList) := by
        simpa using h.titles _ (NameMap.get?_eq_some_iff.mp hget)
      have hsame : p.toList ++ w.toList ++ q.toList = w.toList := by
        rw [← hall.trimChars_eq, (hw.around hchars hp hq).2.1]
      have hlength := congrArg List.length hsame
      simp only [List.length_append] at hlength
      have hpnil : p.toList = [] := List.length_eq_zero_iff.mp (by omega)
      have hqnil : q.toList = [] := List.length_eq_zero_iff.mp (by omega)
      exact absurd ⟨by simpa using hpnil, by simpa using hqnil⟩ hblanks

/-- Where no suffix is appended behind blanks, the regular form acts inside them. -/
theorem Tidy.regularForm_around (h : tables.Tidy) (hp : ∀ c ∈ p.toList, isBlank c = true)
    (hq : key = "f" → ∀ suffix, tables.feminineSuffix = some suffix → suffix ≠ "" → q = "")
    (w : String) :
    tables.regularForm key (p ++ w ++ q) = p ++ tables.regularForm key w ++ q := by
  unfold regularForm
  cases hsuffix : tables.feminineSuffix with
  | none => rfl
  | some suffix =>
      by_cases hkey : key = "f"
      · simp only [if_pos hkey]
        by_cases hne : suffix = ""
        · subst hne
          rw [appendSuffix_empty, appendSuffix_empty]
        · rw [hq hkey suffix hsuffix hne, String.append_empty, String.append_empty,
            appendSuffix_blank_append (h.suffix suffix hsuffix) hp]
      · simp only [if_neg hkey]

/-- Behind the suffix there are no blanks left. -/
theorem Tidy.regularForm_ne_around (h : tables.Tidy) (hsuffix : tables.feminineSuffix = some suffix)
    (hne : suffix ≠ "") (hq : ∀ c ∈ q.toList, isBlank c = true) (hqne : q ≠ "")
    (title front : String) : tables.regularForm "f" (title ++ q) ≠ front ++ q := by
  have htrimmed : Trimmed suffix.toList := h.suffix suffix hsuffix
  have hform : tables.regularForm "f" (title ++ q) = title ++ q ++ suffix := by
    simp only [regularForm, hsuffix, if_pos]
    exact appendSuffix_append_of_blank htrimmed hne hq hqne title
  rw [hform]
  intro heq
  have hends : suffix.toList <:+ front.toList ++ q.toList := by
    refine ⟨(title ++ q).toList, ?_⟩
    rw [← String.toList_append, heq, String.toList_append]
  exact not_isSuffix_append_of_blank htrimmed.last (by simpa using hne) hq (by simpa using hqne) _
    hends

/-- **Where blanks around a title do no harm**: with the blanks it is not listed, so its form there
is the regular one. -/
theorem Tidy.titleFor_around_iff (h : tables.Tidy) (hp : ∀ c ∈ p.toList, isBlank c = true)
    (hq : ∀ c ∈ q.toList, isBlank c = true) (hw : Trimmed w.toList) (hne : w ≠ "")
    (hblanks : ¬ (p = "" ∧ q = "")) :
    tables.titleFor key (p ++ w ++ q) = p ++ tables.titleFor key w ++ q ↔
      tables.RegularAt key w q := by
  have hmissed : tables.titleFor key (p ++ w ++ q) = tables.regularForm key (p ++ w ++ q) := by
    rw [titleFor, h.genderedTitle_around hp hq hw hne hblanks, Option.getD_none]
  rw [hmissed]
  constructor
  · intro heq
    have hsuffix : key = "f" → ∀ suffix, tables.feminineSuffix = some suffix → suffix ≠ "" →
        q = "" := by
      rintro rfl suffix hsuffix hsne
      by_contra hqne
      exact h.regularForm_ne_around hsuffix hsne hq hqne _ _ heq
    refine ⟨fun form hform => ?_, hsuffix⟩
    rw [h.regularForm_around hp hsuffix, String.append_left_inj, String.append_right_inj, titleFor,
      hform, Option.getD_some] at heq
    exact heq.symm
  · intro hregular
    have hsame : tables.titleFor key w = tables.regularForm key w := by
      unfold titleFor
      cases hform : tables.genderedTitle w key with
      | none => rfl
      | some form => exact hregular.form form hform
    rw [h.regularForm_around hp hregular.suffix, hsame]

end LocaleRules

end TextRecipes.Language

/-! ## As a transform -/

namespace TextRecipes.Transform

open TextRecipes.Language TextRecipes.Text

variable {p w q name locale : String} {rules : Rules} {parts : Parts} {t : Transform}

theorem runNamed_of_ofName? (h : ofName? name = some t) :
    runNamed name rules locale parts = t.run rules locale parts := by
  funext s
  rw [runNamed, h]

/-- The transform goes by the gender of the bound person, and without one it leaves the title alone.
-/
theorem run_genderAdapt (rules : Rules) (locale : String) (parts : Parts) (title : String) :
    genderAdapt.run rules locale parts title
      = ((personGender? parts).bind fun gender => (rules.forLocale locale).map
          (·.titleFor (normalizeGender gender) title)).getD title := by
  unfold run
  cases personGender? parts with
  | none => rfl
  | some gender =>
      show Language.genderAdapt rules locale gender title = _
      rw [genderAdapt_eq_elim]
      cases rules.forLocale locale <;> rfl

/-- **A title must stand without blanks around it**, if it is to be adapted as it is without them:
else its listed form must be the regular one, and no feminine suffix may come behind blanks that
follow it. Inhabitant names and genitives keep the blanks around every word. -/
theorem genderAdapt_around_iff (hp : ∀ c ∈ p.toList, isBlank c = true)
    (hq : ∀ c ∈ q.toList, isBlank c = true) (hw : Trimmed w.toList) (hne : w ≠ "")
    (htidy : ∀ tables, rules.forLocale locale = some tables → tables.Tidy) :
    (runNamed "genderAdapt" rules locale parts (p ++ w ++ q)
        = p ++ runNamed "genderAdapt" rules locale parts w ++ q ↔
      (p = "" ∧ q = "") ∨ ∀ gender tables, personGender? parts = some gender →
        rules.forLocale locale = some tables →
        tables.RegularAt (normalizeGender gender) w q) ∧
    ActsInside (runNamed "demonym" rules locale parts) ∧
    ActsInside (runNamed "genitive" rules locale parts) := by
  refine ⟨?_, ?_, ?_⟩
  · have hname : ofName? "genderAdapt" = some genderAdapt := by decide +kernel
    rw [runNamed_of_ofName? hname, run_genderAdapt, run_genderAdapt]
    by_cases hblanks : p = "" ∧ q = ""
    · obtain ⟨rfl, rfl⟩ := hblanks
      simp
    · rw [or_iff_right hblanks]
      -- without a person or without rules no title changes
      cases personGender? parts with
      | none => simp
      | some gender =>
          cases htables : rules.forLocale locale with
          | none => simp
          | some tables =>
              simpa using (htidy tables htables).titleFor_around_iff hp hq hw hne hblanks
  · have hname : ofName? "demonym" = some demonym := by decide +kernel
    rw [runNamed_of_ofName? hname]
    exact actsInside_demonym rules locale
  · have hname : ofName? "genitive" = some genitive := by decide +kernel
    rw [runNamed_of_ofName? hname]
    exact actsInside_genitive locale

end TextRecipes.Transform

/-! ## A countess

A title for Anna by German rules, which list the form of `Graf` for a woman and give a suffix for
all other titles. -/

namespace TextRecipes.Countess

open TextRecipes.Language TextRecipes.Text TextRecipes.Transform

def anna : Item where
  text := .ofPairs [("de", "Anna")]
  gram := [("gender", .text "f")]

def parts : Parts := ⟨[("Person", .item anna)], by decide +kernel⟩

def german : LocaleRules where
  genderTitles := .ofPairs [("Graf", .ofPairs [("f", "Gräfin")])]
  feminineSuffix := some "in"

def rules : Rules := ⟨.ofPairs [("de", german)]⟩

theorem tidy_german : german.Tidy where
  titles := by
    have hlisted : german.genderTitles.entries.map (·.1) = ["Graf"] := rfl
    intro e he
    have hmem : e.1 ∈ german.genderTitles.entries.map (·.1) := List.mem_map_of_mem he
    rw [hlisted, List.mem_singleton] at hmem
    rw [hmem]
    decide
  suffix := by
    rintro suffix ⟨⟩
    decide

theorem tidy_rules : ∀ tables, rules.forLocale "de" = some tables → tables.Tidy := by
  rintro tables ⟨⟩
  exact tidy_german

/-- Blanks in front of a title that is not listed are kept. -/
theorem queen_behind_blanks :
    runNamed "genderAdapt" rules "de" parts ("\t\u2003" ++ "König" ++ "")
      = "\t\u2003" ++ "Königin" ++ "" := by
  have hfront : ∀ c ∈ "\t\u2003".toList, isBlank c = true := List.all_eq_true.mp (by decide)
  have hbehind : ∀ c ∈ "".toList, isBlank c = true := List.all_eq_true.mp (by decide)
  have hking : runNamed "genderAdapt" rules "de" parts "König" = "Königin" := by decide +kernel
  rw [← hking]
  refine (genderAdapt_around_iff hfront hbehind (by decide) (by decide) tidy_rules).1.mpr (.inr ?_)
  rintro gender tables ⟨⟩ ⟨⟩
  refine ⟨?_, fun _ _ _ _ => rfl⟩
  intro form hform
  cases hform

/-- With blanks around it the listed title is missed, and the suffix goes behind them. -/
theorem count_beside_blanks :
    isBlank ' ' = true ∧ Trimmed "Graf".toList ∧
    runNamed "genderAdapt" rules "de" parts "Graf" = "Gräfin" ∧
    runNamed "genderAdapt" rules "de" parts (" " ++ "Graf" ++ " ") = " Graf in" ∧
    runNamed "genderAdapt" rules "de" parts (" " ++ "Graf" ++ " ")
      ≠ " " ++ runNamed "genderAdapt" rules "de" parts "Graf" ++ " " :=
  ⟨by decide, by decide, by decide +kernel, by decide +kernel, by decide +kernel⟩

end TextRecipes.Countess
