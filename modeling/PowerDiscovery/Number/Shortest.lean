import PowerDiscovery.Number.Binary64
import PowerDiscovery.Number.Numeral

/-! # The shortest decimal text of a floating point number

The digits are the fewest that read back as the same number and, among those, the ones closest to it.
A decimal reads back as the number if it lies in the interval of reals that round to it; on each grid of
decimals only the two neighbours of the number need to be looked at. -/

namespace PowerDiscovery.Binary64

/-- The reals that round to a number, as multiples of `1 / unit`: the number itself, the lower and the
upper end, and whether the ends belong to it. -/
structure Rounding where
  value : Nat
  low : Nat
  high : Nat
  unit : Nat
  closed : Bool

/-- The reals that round to `significand * 2 ^ exponent`.  Below a power of two the next number is only
half as far away. -/
def roundingTo (significand : Nat) (exponent : Int) : Rounding :=
  let (step, unit) := scaleDown 1 1 (-exponent)
  let below := if significand = Nat.pow 2 52 && exponent > leastExponent then 1 else 2
  { value := 4 * significand * step
    low := (4 * significand - below) * step
    high := (4 * significand + 2) * step
    unit := 4 * unit
    closed := significand % 2 = 0 }

def Rounding.holds (r : Rounding) (num den : Nat) : Bool :=
  let x := num * r.unit
  if r.closed then r.low * den ≤ x && x ≤ r.high * den else r.low * den < x && x < r.high * den

def tenPower (k : Int) : Nat × Nat :=
  if k ≥ 0 then (Nat.pow 10 k.toNat, 1) else (1, Nat.pow 10 (-k).toNat)

/-- The `k` with `10 ^ (k - 1) ≤ value < 10 ^ k`; no number has more than 330 zeros after the point. -/
def Rounding.magnitude (r : Rounding) : Int :=
  ((toString (r.value * Nat.pow 10 330 / r.unit)).length : Int) - 330

/-- The decimal of a grid that reads back as the number: of its two neighbours the one that does, of two
the closer one, and halfway the even one. -/
def Rounding.onGrid? (r : Rounding) (k : Int) : Option Nat :=
  let (num, den) := tenPower k
  let below := r.value * den / (r.unit * num)
  let twice := 2 * (r.value * den % (r.unit * num))
  let above := below + 1
  let wholeUnit := r.unit * num
  match r.holds (below * num) den, r.holds (above * num) den with
  | true, true =>
    if twice < wholeUnit || (twice = wholeUnit && below % 2 = 0) then some below else some above
  | true, false => some below
  | false, true => some above
  | false, false => none

def Rounding.search (r : Rounding) (magnitude : Int) : Nat → Nat → Nat × Int
  | 0, digits => ((r.onGrid? (magnitude - digits)).getD 0, magnitude - digits)
  | fuel + 1, digits =>
    match r.onGrid? (magnitude - digits) with
    | some n => (n, magnitude - digits)
    | none => r.search magnitude fuel (digits + 1)

/-- The shortest decimal, as digits and the power of ten of the last one; 17 digits always suffice. -/
def shortest (significand : Nat) (exponent : Int) : Nat × Int :=
  let r := roundingTo significand exponent
  r.search r.magnitude 16 1

/-- How a decimal is laid out: the exponents of the leading digit that are written positionally, and the
least number of digits of a written exponent. -/
structure Layout where
  leastPositional : Int
  firstScientific : Int
  exponentDigits : Nat

/-- Numbers are written positionally from `0.0001` up to below `10 ^ 16`, and the exponent of any other
has a sign and two digits at least. -/
def Layout.usual : Layout := { leastPositional := -4, firstScientific := 16, exponentDigits := 2 }

def significantDigits (n : Nat) : List Char :=
  match ((toString n).toList.reverse.dropWhile (· == '0')).reverse with
  | [] => ['0']
  | cs => cs

/-- Digits with a point after the first `whole` of them, filled up with zeros on either side. -/
def positional (digits : List Char) (whole : Int) : List Char :=
  if whole ≤ 0 then '0' :: '.' :: (List.replicate (-whole).toNat '0' ++ digits)
  else
    let n := whole.toNat
    let fraction := digits.drop n
    digits.take n ++ List.replicate (n - digits.length) '0' ++ '.' ::
      (if fraction.isEmpty then ['0'] else fraction)

def scientific (layout : Layout) (digits : List Char) (exponent : Int) : List Char :=
  let written := (toString exponent.natAbs).toList
  let fraction := digits.drop 1
  digits.take 1 ++ (if fraction.isEmpty then [] else '.' :: fraction) ++ 'e' ::
    (if exponent < 0 then '-' else '+') ::
    (List.replicate (layout.exponentDigits - written.length) '0' ++ written)

def text : Binary64 → String
  | .nan => "nan"
  | .infinite negative => if negative then "-inf" else "inf"
  | .finite negative significand exponent =>
    let sign := if negative then ['-'] else []
    if significand = 0 then String.ofList (sign ++ ['0', '.', '0'])
    else
      let (n, power) := shortest significand exponent
      let digits := significantDigits n
      let leading : Int := (toString n).length + power - 1
      let layout := Layout.usual
      let body :=
        if layout.leastPositional ≤ leading && leading < layout.firstScientific then
          positional digits (leading + 1)
        else scientific layout digits leading
      String.ofList (sign ++ body)

end PowerDiscovery.Binary64
