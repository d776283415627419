import IndexSync.Decimal.Power

/-!
# Binary floating point numbers

Double precision numbers as exact dyadic fractions, and the rounding of an exact fraction to the
nearest of them. Ties go to the even significand, numbers beyond the largest become infinite, and
numbers below the smallest become zero.
-/

namespace IndexSync.Decimal

/-- A double precision number. -/
inductive Double where
  /-- The number `± significand * 2 ^ exponent`. -/
  | finite (negative : Bool) (significand : Nat) (exponent : Int)
  /-- Positive or negative infinity. -/
  | infinite (negative : Bool)
  /-- Not a number. -/
  | nan
  deriving DecidableEq, Repr

namespace Double

/-- The least exponent of a double. -/
def minExponent : Int := -1074

/-- The greatest exponent of a double. -/
def maxExponent : Int := 971

/-- Zero with a sign. -/
def zero (negative : Bool) : Double := .finite negative 0 minExponent

/-- Divide and round to the nearest integer; an exact half goes to the even neighbour. -/
def divNearest (num den : Nat) : Nat :=
  let q := num / den
  let twice := 2 * (num % den)
  if twice < den then q
  else if den < twice then q + 1
  else if q % 2 = 0 then q else q + 1

/-- The fraction `num / den * 2 ^ (-e)` as a numerator and a denominator. -/
def shiftFraction (num den : Nat) (e : Int) : Nat × Nat :=
  if 0 ≤ e then (num, den * twoTo e.toNat) else (num * twoTo (-e).toNat, den)

/-- The exponent at which a positive fraction has a significand of 53 bits. -/
def exponentOf (num den : Nat) : Int :=
  -- The bit lengths fix the exponent up to one.
  let guess : Int := (num.log2 : Int) - (den.log2 : Int) - 53
  let (n, d) := shiftFraction num den guess
  let e := if twoTo 53 ≤ n / d then guess + 1 else guess
  max minExponent e

/-- The double nearest to `± num / den`. -/
def ofFraction (negative : Bool) (num den : Nat) : Double :=
  if num = 0 then zero negative
  else
    let e := exponentOf num den
    let (n, d) := shiftFraction num den e
    let m := divNearest n d
    -- Rounding up may carry into a bit more than there is room for.
    let (m, e) := if m = twoTo 53 then (twoTo 52, e + 1) else (m, e)
    if m = 0 then zero negative
    else if maxExponent < e then .infinite negative
    else .finite negative m e

/-- The double nearest to an integer; `none` if it lies beyond the largest double. -/
def ofInt? (n : Int) : Option Double :=
  match ofFraction (decide (n < 0)) n.natAbs 1 with
  | .infinite _ => none
  | x => some x

/-- The magnitude of a finite double as a numerator and a denominator. -/
def fraction (significand : Nat) (exponent : Int) : Nat × Nat :=
  if 0 ≤ exponent then (significand * twoTo exponent.toNat, 1)
  else (significand, twoTo (-exponent).toNat)

/-- The number is zero of either sign. -/
def isZero : Double → Bool
  | .finite _ m _ => m == 0
  | _ => false

/-- The number as an integer, if it is one. -/
def toInt? : Double → Option Int
  | .finite negative m e =>
    let (num, den) := fraction m e
    if num % den = 0 then some (if negative then -((num / den : Nat) : Int) else (num / den : Nat))
    else none
  | _ => none

/-- Divide by a positive integer. -/
def divNat (x : Double) (k : Nat) : Double :=
  match x with
  | .finite negative m e =>
    let (num, den) := fraction m e
    ofFraction negative num (den * k)
  | x => x

/-- Multiply by a positive integer. -/
def mulNat (x : Double) (k : Nat) : Double :=
  match x with
  | .finite negative m e =>
    let (num, den) := fraction m e
    ofFraction negative (num * k) den
  | x => x

/-- The nearest integer, an exact half going to the even neighbour; zero if not finite. -/
def round : Double → Int
  | .finite negative m e =>
    let (num, den) := fraction m e
    if negative then -(divNearest num den : Int) else divNearest num den
  | _ => 0

end Double

end IndexSync.Decimal
