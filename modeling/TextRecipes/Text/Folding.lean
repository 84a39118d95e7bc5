import TextRecipes.Text.Trim

/-!
# Spacing and folding

Changes of a text character by character: runs of blanks made single spaces, blanks removed,
umlauts and other Latin letters with marks spelled in plain letters.
-/

namespace TextRecipes.Text

/-- Each run of blanks as one space. `blankBefore` says whether the character before was blank. -/
def collapse (blankBefore : Bool) : List Char → List Char
  | [] => []
  | c :: rest =>
    if isBlank c then
      if blankBefore then collapse true rest else ' ' :: collapse true rest
    else c :: collapse false rest

def collapseSpaces (s : String) : String := String.ofList (collapse false s.toList)

def removeSpaces (s : String) : String := String.ofList (s.toList.filter (!isBlank ·))

/-- Letters with marks, grouped by their spelling in plain letters. -/
def plainSpellings : List (List Char × String) :=
  [(['ä'], "ae"), (['ö'], "oe"), (['ü'], "ue"), (['Ä'], "Ae"), (['Ö'], "Oe"), (['Ü'], "Ue"),
   (['ß'], "ss"), (['ẞ'], "SS"),
   (['à', 'á', 'â', 'ã', 'å'], "a"), (['À', 'Á', 'Â', 'Ã', 'Å'], "A"),
   (['æ'], "ae"), (['Æ'], "Ae"), (['ç'], "c"), (['Ç'], "C"),
   (['è', 'é', 'ê', 'ë'], "e"), (['È', 'É', 'Ê', 'Ë'], "E"),
   (['ì', 'í', 'î', 'ï'], "i"), (['Ì', 'Í', 'Î', 'Ï'], "I"),
   (['ñ'], "n"), (['Ñ'], "N"),
   (['ò', 'ó', 'ô', 'õ', 'ø'], "o"), (['Ò', 'Ó', 'Ô', 'Õ', 'Ø'], "O"),
   (['œ'], "oe"), (['Œ'], "Oe"),
   (['ù', 'ú', 'û'], "u"), (['Ù', 'Ú', 'Û'], "U"),
   (['ý', 'ÿ'], "y"), (['Ý'], "Y")]

/-- The spelling of `c` in plain letters; a character without one stays. -/
def plainSpelling (c : Char) : List Char :=
  match plainSpellings.find? (·.1.contains c) with
  | some entry => entry.2.toList
  | none => [c]

/-- The text with umlauts and other marked letters in plain letters. -/
def normalizeUmlauts (s : String) : String := String.ofList (s.toList.flatMap plainSpelling)

end TextRecipes.Text
