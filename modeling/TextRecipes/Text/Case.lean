import TextRecipes.Text.CaseShift
import TextRecipes.Text.Cased

/-!
# Lower case of a text

All letters but one have a lower case of their own. The capital sigma becomes `ς` at the end of a
word and `σ` elsewhere: it ends a word if a cased character stands before it and none after it,
characters that case looks past left out on both sides.
-/

namespace TextRecipes.Text

/-- Whether the first character of `cs` that case does not look past has a case. -/
def meetsCased (cs : List Char) : Bool :=
  match cs.dropWhile isCaseIgnorable with
  | [] => false
  | c :: _ => isCased c

/-- The lower case of `cs`, where `before` are the characters in front of it, nearest first. -/
def lowerAfter (before : List Char) : List Char → List Char
  | [] => []
  | c :: rest =>
    (if c == 'Σ' then
      if meetsCased before && !meetsCased rest then ['ς'] else ['σ']
    else lowerChar c) ++ lowerAfter (c :: before) rest

def lowerChars (cs : List Char) : List Char := lowerAfter [] cs

def lower (s : String) : String := String.ofList (lowerChars s.toList)

end TextRecipes.Text
