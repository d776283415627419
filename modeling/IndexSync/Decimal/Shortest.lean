import IndexSync.Decimal.Double

/-!
# Shortest decimal digits

The fewest decimal digits that read back as a given double, and among those the ones nearest to it.
Seventeen digits always suffice, so the search over digit counts ends there.
-/

namespace IndexSync.Decimal

/-- The number `digits * 10 ^ exponent`. -/
structure Scientific where
  /-- The digits as a number. -/
  digits : Nat
  /-- The power of ten of the last digit. -/
  exponent : Int
  deriving DecidableEq, Repr

namespace Scientific

/-- The number as a fraction. -/
def fraction (x : Scientific) : Nat × Nat :=
  if 0 ≤ x.exponent then (x.digits * tenTo x.exponent.toNat, 1)
  else (x.digits, tenTo (-x.exponent).toNat)

/-- The number reads back as the positive double `m * 2 ^ e`. -/
def readsAs (x : Scientific) (m : Nat) (e : Int) : Bool :=
  Double.ofFraction false x.fraction.1 x.fraction.2 == .finite false m e

/-- The distance of the number to `num / den`, over a denominator common to all numbers of the same
exponent. -/
def distance (x : Scientific) (num den : Nat) : Nat :=
  let (a, b) := x.fraction
  ((a * den : Nat) - (num * b : Nat) : Int).natAbs

end Scientific

/-- How many digits `num / den` has before the point; negative if zeros follow the point. -/
def magnitude (num den : Nat) : Int :=
  let below (k : Int) : Bool :=
    if 0 ≤ k then decide (num < den * tenTo k.toNat) else decide (num * tenTo (-k).toNat < den)
  let bits : Int := (num.log2 : Int) - (den.log2 : Int)
  -- Thirty percent of the number of bits is the number of digits, up to a few.
  let low := bits * 30103 / 100000 - 1
  if below low then low
  else if below (low + 1) then low + 1
  else if below (low + 2) then low + 2
  else low + 3

/-- The two neighbours of `num / den` with `count` digits. -/
def neighbours (num den count : Nat) : Scientific × Scientific :=
  let e := magnitude num den - count
  let d := if 0 ≤ e then num / (den * tenTo e.toNat) else num * tenTo (-e).toNat / den
  (⟨d, e⟩, ⟨d + 1, e⟩)

/-- The better of the two neighbours that read back; the even one if both are equally near. -/
def bestOf? (m : Nat) (e : Int) (num den : Nat) (lo hi : Scientific) : Option Scientific :=
  match lo.readsAs m e, hi.readsAs m e with
  | true, true =>
    let a := lo.distance num den
    let b := hi.distance num den
    if a < b then some lo else if b < a then some hi
    else if lo.digits % 2 = 0 then some lo else some hi
  | true, false => some lo
  | false, true => some hi
  | false, false => none

/-- The shortest number that reads back as `m * 2 ^ e`, searched from `count` digits on. -/
def shortestFrom (m : Nat) (e : Int) (num den : Nat) : Nat → Nat → Scientific
  | count, 0 => (neighbours num den count).1
  | count, more + 1 =>
    let (lo, hi) := neighbours num den count
    match bestOf? m e num den lo hi with
    | some x => x
    | none => shortestFrom m e num den (count + 1) more

/-- The shortest number that reads back as the positive double `m * 2 ^ e`. -/
def shortest (m : Nat) (e : Int) : Scientific :=
  let (num, den) := Double.fraction m e
  shortestFrom m e num den 1 17

end IndexSync.Decimal
