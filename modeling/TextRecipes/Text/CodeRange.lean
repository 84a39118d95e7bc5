/-!
# Classes of characters as ranges of code points

A class of characters (white space, letters, …) is a list of ranges of code points, both ends
included and the ranges in increasing order.
-/

namespace TextRecipes.Text

def inRanges (ranges : List (Nat × Nat)) (c : Char) : Bool :=
  ranges.any fun r => decide (r.1 ≤ c.toNat) && decide (c.toNat ≤ r.2)

end TextRecipes.Text
