import TextRecipes.Text.Blank

/-!
# Trimming

The text inside its surrounding blanks. Every character list is its leading blanks, its trimmed
text and its trailing blanks in this order (`leading_trim_trailing`), so a change of the
trimmed text can put the blanks back where they were.
-/

namespace TextRecipes.Text

/-- The blanks that `cs` begins with. -/
def leading (cs : List Char) : List Char := cs.takeWhile isBlank

def trimStart (cs : List Char) : List Char := cs.dropWhile isBlank

/-- The blanks that `cs` ends with. -/
def trailing (cs : List Char) : List Char := (cs.reverse.takeWhile isBlank).reverse

def trimEnd (cs : List Char) : List Char := (cs.reverse.dropWhile isBlank).reverse

def trimChars (cs : List Char) : List Char := trimEnd (trimStart cs)

def trim (s : String) : String := String.ofList (trimChars s.toList)

/-- The text with what is inside its surrounding blanks changed. Blank text has nothing inside
and stays as it is. -/
def changeInside (change : String → String) (s : String) : String :=
  let cs := s.toList
  let inside := trimChars cs
  if inside.isEmpty then s
  else
    String.ofList (leading cs) ++ change (String.ofList inside)
      ++ String.ofList (trailing (trimStart cs))

theorem trimEnd_trailing (cs : List Char) : trimEnd cs ++ trailing cs = cs := by
  rw [trimEnd, trailing, ← List.reverse_append, List.takeWhile_append_dropWhile,
    List.reverse_reverse]

/-- Trimming splits a character list into three parts and loses nothing. -/
theorem leading_trim_trailing (cs : List Char) :
    leading cs ++ trimChars cs ++ trailing (trimStart cs) = cs := by
  rw [List.append_assoc, trimChars, trimEnd_trailing, leading, trimStart,
    List.takeWhile_append_dropWhile]

end TextRecipes.Text
