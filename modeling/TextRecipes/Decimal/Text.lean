import TextRecipes.Decimal.Shortest

/-!
# Numbers as text

Weights and grammatical values are doubles that are written and read as decimals. A number is
written with the fewest digits that read back, always positionally and without a point if it is
whole: `1`, `0.1`, `1000000000000000000000`. Zero keeps its sign.

Read is an optional sign, digits with at most one point and at least one digit, and an optional
exponent.
-/

namespace TextRecipes.Decimal

/-- The digits of `d`, without the zeros that would end its fraction. -/
def Scaled.trimmed (d : Scaled) : Scaled :=
  let zeros := ((Nat.toDigits 10 d.digits).reverse.takeWhile (· == '0')).length
  let n := min zeros (-d.exponent).toNat
  ⟨d.digits / factor 10 n, d.exponent + n⟩

def Scaled.positional (d : Scaled) : String :=
  let digits := Nat.toDigits 10 d.digits
  let places := (-d.exponent).toNat
  if places == 0 then String.ofList (digits ++ List.replicate d.exponent.toNat '0')
  else
    let padded := List.replicate (places + 1 - digits.length) '0' ++ digits
    let whole := padded.length - places
    String.ofList (padded.take whole ++ '.' :: padded.drop whole)

def write (x : Float) : String :=
  if x.isNaN then "NaN"
  else
    let sign := if x.toBits >>> 63 == 1 then "-" else ""
    if x.isInf then sign ++ "inf"
    else if x == 0 then sign ++ "0"
    else sign ++ (Binary.ofBits x.toBits).shortest.trimmed.positional

def digitsValue (digits : List Char) : Nat :=
  digits.foldl (fun n c => 10 * n + (c.toNat - '0'.toNat)) 0

/-- The double nearest to `digits * 10 ^ exponent`. Beyond four hundred places in front of the
point it is infinite, and that far behind it is zero. -/
def nearest (digits : List Char) (exponent : Int) : Float :=
  let n := digitsValue digits
  let places := (digits.length : Int) + exponent
  if n == 0 || places < -400 then 0
  else if places > 400 + digits.length then 1 / 0
  else Float.ofScientific n (exponent < 0) exponent.natAbs

def splitSign : List Char → Bool × List Char
  | '-' :: rest => (true, rest)
  | '+' :: rest => (false, rest)
  | rest => (false, rest)

/-- The number that an exponent part stands for; no exponent part is a zero. -/
def readExponent? : List Char → Option Int
  | [] => some 0
  | c :: rest =>
    let (negative, digits) := splitSign rest
    if (c == 'e' || c == 'E') && !digits.isEmpty && digits.all (·.isDigit) then
      let n : Int := digitsValue digits
      some (if negative then -n else n)
    else none

def read? (cs : List Char) : Option Float :=
  let (negative, body) := splitSign cs
  let whole := body.takeWhile (·.isDigit)
  let afterWhole := body.dropWhile (·.isDigit)
  let (fraction, tail) :=
    match afterWhole with
    | '.' :: rest => (rest.takeWhile (·.isDigit), rest.dropWhile (·.isDigit))
    | rest => ([], rest)
  if (whole ++ fraction).isEmpty then none
  else
    (readExponent? tail).map fun e =>
      let x := nearest (whole ++ fraction) (e - fraction.length)
      if negative then -x else x

end TextRecipes.Decimal
