import TextRecipes.Text.Case

/-!
# Suffix rules

Inhabitant names and genitives follow the ending of a word. A table lists suffixes with their
replacements; the first suffix that the word ends in, upper and lower case alike, is replaced,
as long as something of the word is left in front of it. A word that ends in none gets the
default suffix and loses a final `e` to it. Words of a single character do not change.
-/

namespace TextRecipes.Language

structure SuffixRule where
  suffix : String
  replacement : String
deriving DecidableEq, Inhabited

/-- Suffix rules in the order in which they are tried, and the suffix for all other words. -/
structure SuffixTable where
  rules : List SuffixRule
  defaultSuffix : String
deriving DecidableEq, Inhabited

/-- What stands in `word` before `suffix`, if it ends in it apart from upper and lower case. No
word ends in an empty suffix. -/
def stemChars? (word suffix : List Char) : Option (List Char) :=
  let cut := word.length - suffix.length
  if suffix.isEmpty || word.length < suffix.length then none
  else if Text.lowerChars (word.drop cut) == Text.lowerChars suffix then some (word.take cut)
  else none

/-- What stands in `word` before `suffix`, if it ends in it apart from upper and lower case. -/
def stem? (word suffix : String) : Option String :=
  (stemChars? word.toList suffix.toList).map String.ofList

def endsInOneOf (word : String) (suffixes : List String) : Bool :=
  suffixes.any fun suffix => (stem? word suffix).isSome

/-- The word that a rule makes of `word`, if it applies and leaves a stem. -/
def SuffixRule.replace? (rule : SuffixRule) (word : String) : Option String :=
  match stem? word rule.suffix with
  | some stem => if stem.isEmpty then none else some (stem ++ rule.replacement)
  | none => none

def SuffixTable.apply (table : SuffixTable) (word : String) : String :=
  if word.toList.length ≤ 1 then word
  else
    match table.rules.findSome? (·.replace? word) with
    | some changed => changed
    | none => (stem? word "e").getD word ++ table.defaultSuffix

def germanDemonyms : SuffixTable where
  rules :=
    [⟨"ingen", "inger"⟩, ⟨"hausen", "hausener"⟩, ⟨"stadt", "städter"⟩, ⟨"burg", "burger"⟩,
     ⟨"berg", "berger"⟩, ⟨"dorf", "dorfer"⟩, ⟨"heim", "heimer"⟩, ⟨"feld", "felder"⟩,
     ⟨"furt", "furter"⟩, ⟨"bach", "bacher"⟩, ⟨"brück", "brücker"⟩, ⟨"land", "länder"⟩,
     ⟨"ien", "ier"⟩, ⟨"au", "auer"⟩, ⟨"en", "ener"⟩, ⟨"a", "aner"⟩]
  defaultSuffix := "er"

def englishDemonyms : SuffixTable where
  rules :=
    [⟨"land", "lander"⟩, ⟨"polis", "politan"⟩, ⟨"burg", "burger"⟩, ⟨"ton", "tonian"⟩,
     ⟨"ica", "ican"⟩, ⟨"ia", "ian"⟩, ⟨"a", "an"⟩, ⟨"y", "ian"⟩]
  defaultSuffix := "er"

def builtinDemonyms? (language : String) : Option SuffixTable :=
  if language == "de" then some germanDemonyms
  else if language == "en" then some englishDemonyms
  else none

/-- The German genitive of a name. After an s-sound the ending is a bare apostrophe. -/
def germanGenitive (name : String) : String :=
  if endsInOneOf name ["tz", "s", "ß", "x", "z"] then name ++ "'" else name ++ "s"

def englishPossessive (name : String) : String :=
  if endsInOneOf name ["s"] then name ++ "'" else name ++ "'s"

end TextRecipes.Language
