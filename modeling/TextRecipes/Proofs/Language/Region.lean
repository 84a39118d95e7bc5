import Mathlib.Data.List.TakeWhile
import TextRecipes.Transform

/-!
# Regions without entries of their own

A locale such as `de-AT` has a base language, and every table that is asked for the locale asks for
the language next. So where a table has no entry for the locale itself, the locale and its language
find the same: texts (`LocalizedText.forLocale_base`), language rules (`Rules.forLocale_base`), and
with these everything that inflects a name (`Transform.runNamed_base`).
-/

namespace TextRecipes

/-- A language is its own base language. -/
@[simp] theorem baseLanguage_baseLanguage (locale : String) :
    baseLanguage (baseLanguage locale) = baseLanguage locale := by
  rw [baseLanguage, baseLanguage, String.toList_ofList, List.takeWhile_idem]

/-- A text without a version for the region itself reads as in the base language. -/
theorem LocalizedText.forLocale_base {text : LocalizedText} {locale : String}
    (h : text.get? locale = none) :
    text.forLocale (baseLanguage locale) = text.forLocale locale := by
  unfold forLocale
  rw [baseLanguage_baseLanguage, h]
  -- what is asked first finds nothing for the region, and the rest is the same
  cases text.get? (baseLanguage locale) <;> rfl

namespace Language

variable {rules : Rules} {locale : String}

/-- A region without rules of its own follows those of its base language. -/
theorem Rules.forLocale_base (h : rules.locales.get? locale = none) :
    rules.forLocale (baseLanguage locale) = rules.forLocale locale := by
  unfold forLocale
  rw [baseLanguage_baseLanguage, h]
  cases rules.locales.get? (baseLanguage locale) <;> rfl

theorem demonym_base (h : rules.locales.get? locale = none) (place : String) :
    demonym rules (baseLanguage locale) place = demonym rules locale place := by
  rw [demonym, demonym, Rules.forLocale_base h, baseLanguage_baseLanguage]

theorem genitive_base (locale name : String) :
    genitive (baseLanguage locale) name = genitive locale name := by
  rw [genitive, genitive, baseLanguage_baseLanguage]

theorem genderAdapt_base (h : rules.locales.get? locale = none) (gender title : String) :
    genderAdapt rules (baseLanguage locale) gender title = genderAdapt rules locale gender title := by
  rw [genderAdapt, genderAdapt, Rules.forLocale_base h]

end Language

/-- **A transform does for a language what it does for a region of it** without rules. -/
theorem Transform.runNamed_base {rules : Language.Rules} {locale : String}
    (h : rules.locales.get? locale = none) (name : String) (parts : Parts) (s : String) :
    runNamed name rules (baseLanguage locale) parts s = runNamed name rules locale parts s := by
  unfold runNamed
  -- only the changes that inflect a name ask for the locale
  cases ofName? name with
  | none => rfl
  | some t =>
      cases t with
      | genderAdapt => simp only [run, Language.genderAdapt_base h]
      | demonym => exact Language.demonym_base h s
      | genitive => exact Language.genitive_base locale s
      | text t => rfl

end TextRecipes
