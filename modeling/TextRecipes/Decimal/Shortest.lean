/-!
# The shortest decimal of a binary number

A finite positive double is a natural number times a power of two, and the reals that round to it
form an interval around it. The decimal to write is the one with the fewest digits in this
interval, and of two with equally many digits the nearer one. All comparisons are between
natural numbers, so no rounding happens on the way.

The search tries the grids of decimals with one digit, two digits and so on. On each it is enough
to test the two neighbours of the value: if any decimal of the grid lies in the interval, one of
these does.
-/

namespace TextRecipes.Decimal

/-- The number `mantissa * 2 ^ exponent`, a finite positive double. -/
structure Binary where
  /-- The significand. -/
  mantissa : Nat
  /-- The exponent of two. -/
  exponent : Int
  /-- Whether the next double below is only half as far away as the next one above. -/
  narrowBelow : Bool

/-- The number `digits * 10 ^ exponent`. -/
structure Scaled where
  /-- The digits, read as a natural number. -/
  digits : Nat
  /-- The exponent of ten. -/
  exponent : Int

/-- The magnitude that the bits of a finite double stand for. -/
def Binary.ofBits (bits : UInt64) : Binary :=
  let biased := ((bits >>> 52) &&& 0x7FF).toNat
  let fraction := (bits &&& 0xFFFFFFFFFFFFF).toNat
  if biased == 0 then ⟨fraction, -1074, false⟩
  else ⟨0x10000000000000 + fraction, (biased : Int) - 1075, fraction == 0 && biased > 1⟩

/-- The factor `base ^ e`, or one if `e` is negative. A negative exponent is a factor on the other
side of a comparison, or in the denominator. -/
def factor (base : Nat) (e : Int) : Nat := Nat.pow base e.toNat

/-- The order of `a * 10 ^ i` and `b * 2 ^ j`. -/
def compareScaled (a : Nat) (i : Int) (b : Nat) (j : Int) : Ordering :=
  compare (a * factor 10 i * factor 2 (-j)) (b * factor 2 j * factor 10 (-i))

/-- Whether `d` is among the reals that round to `x`: between the midpoints to the neighbours of
`x`, which themselves count if the significand of `x` is even. -/
def Binary.readsBack (x : Binary) (d : Scaled) : Bool :=
  let below := if x.narrowBelow then 4 * x.mantissa - 1 else 4 * x.mantissa - 2
  let above := 4 * x.mantissa + 2
  let even := x.mantissa % 2 == 0
  let low := compareScaled d.digits d.exponent below (x.exponent - 2)
  let high := compareScaled d.digits d.exponent above (x.exponent - 2)
  (low == .gt || (even && low == .eq)) && (high == .lt || (even && high == .eq))

/-- The value of `x` in units of `10 ^ unit`, as a numerator and a denominator. -/
def Binary.inUnits (x : Binary) (unit : Int) : Nat × Nat :=
  (x.mantissa * factor 2 x.exponent * factor 10 (-unit), factor 2 (-x.exponent) * factor 10 unit)

/-- The least `k` with `x < 10 ^ k`. No double is below `10 ^ -400`, so the digits of `x` in
units that small show how large it is. -/
def Binary.magnitude (x : Binary) : Int :=
  let (num, den) := x.inUnits (-400)
  ((Nat.toDigits 10 (num / den)).length : Int) - 400

/-- The decimal of the grid `10 ^ unit` that reads back as `x`: the nearer one of two, the larger
one if both are equally near. -/
def Binary.onGrid? (x : Binary) (unit : Int) : Option Scaled :=
  let (num, den) := x.inUnits unit
  let down : Scaled := ⟨num / den, unit⟩
  let up : Scaled := ⟨num / den + 1, unit⟩
  match x.readsBack down, x.readsBack up with
  | true, true => some (if 2 * num < (2 * (num / den) + 1) * den then down else up)
  | true, false => some down
  | false, true => some up
  | false, false => none

/-- The exact decimal value of `x`. -/
def Binary.exact (x : Binary) : Scaled :=
  ⟨x.mantissa * factor 2 x.exponent * factor 5 (-x.exponent), min x.exponent 0⟩

/-- The decimal with the fewest digits that reads back as `x`. -/
def Binary.shortest (x : Binary) : Scaled :=
  ((List.range 17).findSome? fun (n : Nat) => x.onGrid? (x.magnitude - n - 1)).getD x.exact

end TextRecipes.Decimal
