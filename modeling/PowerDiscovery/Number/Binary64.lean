/-! # Floating point numbers

A binary64 number is kept as the exact value `significand * 2 ^ exponent`.  `nearest` rounds a ratio
of whole numbers to the closest such number and, halfway, to the one with an even significand. -/

namespace PowerDiscovery

/-- A binary64 number.  A finite one made by `nearest` has a significand below `2 ^ 53` and an exponent
of at least `-1074`, and its significand is at least `2 ^ 52` unless the exponent is `-1074`. -/
inductive Binary64 where
  | finite (negative : Bool) (significand : Nat) (exponent : Int)
  | infinite (negative : Bool)
  | nan
deriving DecidableEq, Repr

namespace Binary64

def zero (negative : Bool) : Binary64 := .finite negative 0 (-1074)

def leastExponent : Int := -1074

def greatestExponent : Int := 971

def scaleDown (num den : Nat) (exponent : Int) : Nat × Nat :=
  if exponent ≥ 0 then (num, den * Nat.pow 2 exponent.toNat) else (num * Nat.pow 2 (-exponent).toNat, den)

def roundDiv (num den : Nat) : Nat :=
  let q := num / den
  let twice := 2 * (num % den)
  if twice > den || (twice = den && q % 2 = 1) then q + 1 else q

/-- The exponent at which a positive ratio has a quotient of 53 binary digits, or the least one. -/
def exponentOf (num den : Nat) : Int :=
  let low : Int := (Nat.log2 num : Int) - Nat.log2 den - 53
  let (n, d) := scaleDown num den (low + 53)
  max leastExponent (if n ≥ d then low + 1 else low)

def nearest (negative : Bool) (num den : Nat) : Binary64 :=
  if num = 0 then zero negative
  else
    let exponent := exponentOf num den
    let (n, d) := scaleDown num den exponent
    let significand := roundDiv n d
    let (significand, exponent) :=
      if significand = Nat.pow 2 53 then (Nat.pow 2 52, exponent + 1) else (significand, exponent)
    if exponent > greatestExponent then .infinite negative else .finite negative significand exponent

/-- The number closest to `coefficient * 10 ^ exponent`.  The size of the outcome is told from the count
of digits first, so no exponent is too large to handle. -/
def ofDecimal (negative : Bool) (coefficient : Nat) (exponent : Int) : Binary64 :=
  let magnitude : Int := (toString coefficient).length + exponent
  if coefficient = 0 || magnitude < -330 then zero negative
  else if magnitude > 310 then .infinite negative
  else if exponent ≥ 0 then nearest negative (coefficient * Nat.pow 10 exponent.toNat) 1
  else nearest negative coefficient (Nat.pow 10 (-exponent).toNat)

/-- The number closest to a whole number, unless it is out of range. -/
def ofInt? (n : Int) : Option Binary64 :=
  match nearest (n < 0) n.natAbs 1 with
  | .finite negative significand exponent => some (.finite negative significand exponent)
  | _ => none

def isPositive : Binary64 → Bool
  | .finite negative significand _ => !negative && significand > 0
  | .infinite negative => !negative
  | .nan => false

def isFinite : Binary64 → Bool
  | .finite .. => true
  | _ => false

def isZero : Binary64 → Bool
  | .finite _ significand _ => significand == 0
  | _ => false

def equalsNat (x : Binary64) (n : Nat) : Bool :=
  match x with
  | .finite negative significand exponent =>
    let (num, den) := scaleDown significand 1 (-exponent)
    num == n * den && (!negative || significand == 0)
  | _ => false

def reaches (x : Binary64) (n : Nat) : Bool :=
  match x with
  | .finite negative significand exponent =>
    let (num, den) := scaleDown significand 1 (-exponent)
    if negative then n == 0 && significand == 0 else num ≥ n * den
  | .infinite negative => !negative
  | .nan => false

end Binary64

end PowerDiscovery
