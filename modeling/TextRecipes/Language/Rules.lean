import TextRecipes.Language.Gender
import TextRecipes.Language.Suffix
import TextRecipes.Locale

/-!
# Language rules

The tables of a locale: which form a preposition takes before a noun of a gender, what a title
becomes for a bearer of a gender, and how the inhabitants of a place are called. A locale without
rules of its own uses those of its base language.
-/

namespace TextRecipes.Language

/-- The forms of a preposition by gender, and the form where the gender has none. -/
structure PrepositionRule where
  forms : NameMap String := .empty
  default : Option String := none
deriving Inhabited

/-- The form before a noun whose canonical gender is `gender`, if it is known. -/
def PrepositionRule.form (rule : PrepositionRule) (gender : Option String) : Option String :=
  (gender.bind (formFor rule.forms.entries)) <|> rule.default

structure LocaleRules where
  /-- The rules of the prepositions. -/
  prepositions : NameMap PrepositionRule := .empty
  /-- The forms of a title by the gender of its bearer. -/
  genderTitles : NameMap (NameMap String) := .empty
  /-- Appended to a title without a form of its own for a feminine bearer. -/
  feminineSuffix : Option String := none
  /-- Used for inhabitant names in place of the built-in table. -/
  demonyms : Option SuffixTable := none
deriving Inhabited

/-- The form of `title` for the canonical gender `gender`, if the table has one. -/
def LocaleRules.genderedTitle (rules : LocaleRules) (title gender : String) : Option String :=
  (rules.genderTitles.get? title).bind fun forms => formFor forms.entries gender

structure Rules where
  locales : NameMap LocaleRules := .empty
deriving Inhabited

namespace Rules

/-- The tables for `locale`, or else for its base language. -/
def forLocale (rules : Rules) (locale : String) : Option LocaleRules :=
  rules.locales.get? locale <|> rules.locales.get? (baseLanguage locale)

/-- Both rule sets; the tables of a locale in `other` replace those in `rules` as a whole. -/
def merge (rules other : Rules) : Rules := ⟨rules.locales.extend other.locales⟩

end Rules

end TextRecipes.Language
