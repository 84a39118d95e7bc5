import TextRecipes.Language.Inflection
import TextRecipes.Part
import TextRecipes.Text.Folding
import TextRecipes.Text.TitleCase

/-!
# Transforms

A block may name a transform of its text. The names are read without regard to upper and lower
case; an unknown name leaves the text as it is. Five of the transforms concern the text alone and
can also be run as a pipeline over finished text.
-/

namespace TextRecipes

inductive TextTransform where
  | trimSpaces
  | collapseSpaces
  | titleCase
  | concatNoSpace
  | normalizeUmlauts
deriving DecidableEq, Inhabited

namespace TextTransform

/-- The transform with a name, given in lower case. -/
def ofLowerName? (name : String) : Option TextTransform :=
  if name == "trimspaces" then some trimSpaces
  else if name == "collapsespaces" then some collapseSpaces
  else if name == "titlecase" then some titleCase
  else if name == "concatnospace" then some concatNoSpace
  else if name == "normalizeumlauts" then some normalizeUmlauts
  else none

def ofName? (name : String) : Option TextTransform := ofLowerName? (Text.lower name)

def run : TextTransform → String → String
  | trimSpaces => Text.trim
  | collapseSpaces => Text.collapseSpaces
  | titleCase => Text.titleCase
  | concatNoSpace => Text.removeSpaces
  | normalizeUmlauts => Text.normalizeUmlauts

/-- The text after each transform with a known name in turn. -/
def runAll (text : String) (names : List String) : String :=
  (names.filterMap ofName?).foldl (fun s t => t.run s) text

end TextTransform

inductive Transform where
  /-- The title for the gender of the person in the alias table. -/
  | genderAdapt
  | demonym
  | genitive
  | text (t : TextTransform)
deriving DecidableEq, Inhabited

/-- The alias of the part whose gender a title is adapted to. -/
def personAlias : String := "Person"

namespace Transform

/-- The transform with a name, given in lower case. -/
def ofLowerName? (name : String) : Option Transform :=
  if name == "genderadapt" then some genderAdapt
  else if name == "demonym" then some demonym
  else if name == "genitive" || name == "possessive" then some genitive
  else (TextTransform.ofLowerName? name).map text

def ofName? (name : String) : Option Transform := ofLowerName? (Text.lower name)

def personGender? (parts : Parts) : Option String :=
  (parts.get? personAlias).bind (·.gramKey? "gender")

/-- The text after the transform. A title stays as it is if no person with a gender is bound. -/
def run (t : Transform) (rules : Language.Rules) (locale : String) (parts : Parts)
    (s : String) : String :=
  match t with
  | genderAdapt =>
    match personGender? parts with
    | some gender => Language.genderAdapt rules locale gender s
    | none => s
  | demonym => Language.demonym rules locale s
  | genitive => Language.genitive locale s
  | text t => t.run s

/-- The text after the transform with a name; an unknown name changes nothing. -/
def runNamed (name : String) (rules : Language.Rules) (locale : String) (parts : Parts)
    (s : String) : String :=
  match ofName? name with
  | some t => t.run rules locale parts s
  | none => s

end Transform

end TextRecipes
