import TextRecipes.NameMap

/-!
# Locales and localized texts

A locale code is a language, possibly followed by a region (`de-AT`, `en_GB`). A localized text
holds one text per locale; where the wanted locale has none, the base language is asked, then
English, then the first locale there is.
-/

namespace TextRecipes

def endsLanguage (c : Char) : Bool := c == '-' || c == '_'

def baseLanguage (locale : String) : String :=
  String.ofList (locale.toList.takeWhile (!endsLanguage ·))

abbrev LocalizedText := NameMap String

/-- The text for `locale`, or the nearest there is. -/
def LocalizedText.forLocale (text : LocalizedText) (locale : String) : Option String :=
  text.get? locale
    <|> text.get? (baseLanguage locale)
    <|> text.get? "en"
    <|> text.values.head?

end TextRecipes
