import TextRecipes.Language.Rules

/-!
# Inflecting names

The three changes of a text that depend on a language: the inhabitant name of a place, the
genitive of a name, and the form of a title for the gender of its bearer. The first two change the
word inside its surrounding blanks. None of them fails: a locale without a rule leaves the text as
it is.
-/

namespace TextRecipes.Language

/-- The name of the inhabitants of `place`, by the table of the locale's rules or else by the one
that is built in for its language. -/
def demonym (rules : Rules) (locale place : String) : String :=
  match (rules.forLocale locale).bind (·.demonyms) with
  | some table => Text.changeInside table.apply place
  | none =>
    match builtinDemonyms? (baseLanguage locale) with
    | some table => Text.changeInside table.apply place
    | none => place

/-- The genitive of `name`, in German and English locales. -/
def genitive (locale name : String) : String :=
  if baseLanguage locale == "de" then Text.changeInside germanGenitive name
  else if baseLanguage locale == "en" then Text.changeInside englishPossessive name
  else name

/-- `title` with the feminine suffix, unless it already ends in it. -/
def appendSuffix (title suffix : String) : String :=
  if suffix.toList.isSuffixOf title.toList then title else title ++ suffix

/-- The form of `title` for a bearer of the given gender: the form that the rules list, or for a
feminine bearer the title with the feminine suffix. -/
def genderAdapt (rules : Rules) (locale gender title : String) : String :=
  match rules.forLocale locale with
  | none => title
  | some tables =>
    let key := normalizeGender gender
    match tables.genderedTitle title key, tables.feminineSuffix with
    | some form, _ => form
    | none, some suffix => if key == "f" then appendSuffix title suffix else title
    | none, none => title

end TextRecipes.Language
