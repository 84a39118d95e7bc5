import TextRecipes.NameSet
import TextRecipes.Text.Alphabetic
import TextRecipes.Text.Blank
import TextRecipes.Text.Case

/-!
# Title case

A text is cut into runs of blanks and runs of other characters, the words. Blanks stay as they
are. A particle, such as `of` or `von`, is written in lower case unless it is the first word; in
every other word each segment between hyphens gets a capital on its first letter, if a letter
stands before the segment's first apostrophe. All other characters keep their case.
-/

namespace TextRecipes.Text

def isApostrophe (c : Char) : Bool := c == '\x27' || c == '’'

/-- A word with capitals on its hyphen-separated segments. `awaiting` says whether the current
segment may still get its capital. -/
def capitalize (awaiting : Bool) : List Char → List Char
  | [] => []
  | c :: rest =>
    if c == '-' then c :: capitalize true rest
    else if isApostrophe c then c :: capitalize false rest
    else if awaiting && isAlphabetic c then upperChar c ++ capitalize false rest
    else c :: capitalize awaiting rest

/-- One word of a title: a particle in lower case unless it opens the title, any other word with
its capitals. -/
def titleWord (particles : NameSet) (opening : Bool) (word : List Char) : List Char :=
  let small := lowerChars word
  if !opening && particles.contains (String.ofList small) then small else capitalize true word

/-- The runs of a title put together, where `opening` says whether no word came before. -/
def titleRuns (particles : NameSet) (opening : Bool) : List (List Char) → List Char
  | [] => []
  | run :: rest =>
    if run.all isBlank then run ++ titleRuns particles opening rest
    else titleWord particles opening run ++ titleRuns particles false rest

/-- The maximal runs of blanks and of other characters, in turn. -/
def runs (cs : List Char) : List (List Char) := cs.splitBy fun a b => isBlank a == isBlank b

/-- The text in title case, the words in `particles` kept in lower case. -/
def titleCaseWith (particles : NameSet) (s : String) : String :=
  String.ofList (titleRuns particles true (runs s.toList))

def germanParticles : List String :=
  ["der", "die", "das", "den", "dem", "des", "ein", "eine", "einer", "eines", "und", "oder",
   "von", "vom", "zu", "zum", "zur", "im", "in", "an", "am", "auf", "aus", "bei", "mit", "nach",
   "über", "unter", "für", "vor"]

def englishParticles : List String :=
  ["a", "an", "the", "and", "or", "nor", "but", "of", "in", "on", "at", "to", "for", "by",
   "with", "from", "as"]

def particles : NameSet := .ofList (germanParticles ++ englishParticles)

def titleCase (s : String) : String := titleCaseWith particles s

end TextRecipes.Text
