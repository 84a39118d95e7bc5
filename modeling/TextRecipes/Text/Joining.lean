import TextRecipes.Text.Trim

/-!
# Joining tokens

The tokens of a run become one text: each is trimmed, the blank ones are dropped, the rest are
set apart by single spaces, and no blank is left in front of a mark that closes up to the word
before it. A blank goes exactly if the run of blanks that it belongs to ends at such a mark, so
what a token begins with can remove blanks that an earlier token ended with.
-/

namespace TextRecipes.Text

/-- The marks that stand directly after a word. -/
def closesUp (c : Char) : Bool :=
  c == ',' || c == '.' || c == ';' || c == ':' || c == '!' || c == '?'

/-- Whether the first character that is not blank is a mark that closes up. -/
def meetsMark (cs : List Char) : Bool :=
  match cs.dropWhile isBlank with
  | [] => false
  | c :: _ => closesUp c

/-- The text without the blanks directly in front of a mark that closes up. -/
def closeUp : List Char → List Char
  | [] => []
  | c :: rest => if isBlank c && meetsMark rest then closeUp rest else c :: closeUp rest

/-- The trimmed tokens that are not blank, set apart by single spaces. -/
def spaced (tokens : List (List Char)) : List Char :=
  [' '].intercalate ((tokens.map trimChars).filter (!·.isEmpty))

def joinChars (tokens : List (List Char)) : List Char := trimChars (closeUp (spaced tokens))

def join (tokens : List String) : String := String.ofList (joinChars (tokens.map String.toList))

end TextRecipes.Text
