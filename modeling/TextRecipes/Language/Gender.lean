import TextRecipes.Text.Case
import TextRecipes.Text.Trim

/-!
# Spellings of gender

Data spell the grammatical gender in several ways. Each has one canonical key: `m`, `f` and `n`
for the spellings listed here, and the lower case of the trimmed text for any other.
-/

namespace TextRecipes.Language

/-- The canonical keys with the spellings that stand for them, in lower case. -/
def genderSpellings : List (String × List String) :=
  [("m", ["m", "masc", "male", "masculine", "männlich", "maskulin"]),
   ("f", ["f", "w", "fem", "female", "feminine", "weiblich", "feminin"]),
   ("n", ["n", "neut", "neuter", "neutral", "sächlich", "neutrum"])]

def normalizeGender (raw : String) : String :=
  let small := Text.lower (Text.trim raw)
  match genderSpellings.find? (·.2.contains small) with
  | some entry => entry.1
  | none => small

/-- The form that a table from spellings of gender to forms has for a canonical gender key: that
of the first spelling, in order, which stands for it. -/
def formFor (forms : List (String × String)) (gender : String) : Option String :=
  (forms.find? fun e => normalizeGender e.1 == gender).map (·.2)

end TextRecipes.Language
