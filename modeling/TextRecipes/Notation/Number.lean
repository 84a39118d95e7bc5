import TextRecipes.Decimal.Text
import TextRecipes.Notation.Quoted

/-!
# Numbers

Whole numbers may be written in base sixteen, eight or two and may hold underscores between their
digits. Where a number may be of either sort, it is whole if it has neither a point nor an
exponent and fits 64 bits, and a fraction otherwise.
-/

namespace TextRecipes.Notation

def inWhole (c : Char) : Bool := (hexValue? c).isSome || c == '_'

def inFraction (c : Char) : Bool :=
  c.isDigit || c == 'e' || c == 'E' || c == '.' || c == '+' || c == '-'

/-- The base that the front of a whole number announces, and its digits. -/
def splitBase : List Char → Nat × List Char
  | '0' :: 'x' :: rest => (16, rest)
  | '0' :: 'b' :: rest => (2, rest)
  | '0' :: 'o' :: rest => (8, rest)
  | rest => (10, rest)

/-- The number that digits of a base stand for, underscores aside. -/
def wholeValue? (base : Nat) (digits : List Char) : Option Nat :=
  let append := fun n c =>
    match hexValue? c with
    | some d => if d < base then some (base * n + d) else none
    | none => none
  (digits.filter (· != '_')).foldlM append 0

/-- The least number that takes more than the 63 bits of a signed number's magnitude. -/
def signedLimit : Nat := 0x8000000000000000

/-- The whole number at the front of a text, and what follows it. Without a sign it has to fit
64 bits, with a sign the 64 bits of a signed number. -/
def splitWhole? (cs : List Char) : Option (Int × List Char) :=
  let signed := cs.head? == some '-' || cs.head? == some '+'
  let (negative, body) := Decimal.splitSign cs
  let (base, rest) := splitBase body
  let digits := rest.takeWhile inWhole
  if digits.isEmpty || digits.head? == some '_' then none
  else
    (wholeValue? base digits).bind fun n =>
      let fits :=
        if !signed then n < 2 * signedLimit
        else if negative then n ≤ signedLimit
        else n < signedLimit
      if fits then some (if negative then -n else n, rest.drop digits.length) else none

/-- Takes a fraction, or one of the words for infinity and for what is no number. -/
def fraction : Scanner Float := do
  if (← word "inf") || (← word "+inf") then return 1 / 0
  else if ← word "-inf" then return -1 / 0
  else if (← word "NaN") || (← word "+NaN") || (← word "-NaN") then return 0 / 0
  else
    let cs ← get
    match Decimal.read? (cs.takeWhile inFraction) with
    | some x =>
      set (cs.dropWhile inFraction)
      return x
    | none => malformed

/-- Whether the number at the front of a text has more characters as a fraction than it has as a
whole number. -/
def looksFractional (cs : List Char) : Bool :=
  let body := (Decimal.splitSign cs).2
  (body.takeWhile inWhole).length < (body.takeWhile inFraction).length

end TextRecipes.Notation
