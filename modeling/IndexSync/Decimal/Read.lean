import IndexSync.Decimal.Double
import IndexSync.Text.Numeral

/-!
# Reading decimal fractions

A decimal fraction is a sign, digits with at most one point among them, and an optional power of
ten. It is read as the nearest double.
-/

namespace IndexSync.Decimal

/-- A decimal fraction before rounding: the number `± digits * 10 ^ exponent`. -/
structure Fraction where
  /-- The sign. -/
  negative : Bool
  /-- The digits, most significant first. -/
  digits : List Nat
  /-- The power of ten of the last digit. -/
  exponent : Int

/-- Numbers with more digits than this before the point exceed every double. -/
def maxMagnitude : Int := 400

/-- The double nearest to a decimal fraction. -/
def Fraction.toDouble (f : Fraction) : Double :=
  let n := Text.ofDigits f.digits
  -- Huge powers of ten are settled by magnitude, without being computed.
  let magnitude : Int := (f.digits.dropWhile (· == 0)).length + f.exponent
  if n = 0 then .zero f.negative
  else if maxMagnitude < magnitude then .infinite f.negative
  else if magnitude < -maxMagnitude then .zero f.negative
  else if 0 ≤ f.exponent then .ofFraction f.negative (n * tenTo f.exponent.toNat) 1
  else .ofFraction f.negative n (tenTo (-f.exponent).toNat)

/-- Split at the first character of a class; `none` if there is none. -/
def splitAtFirst? (cls : Char → Bool) : List Char → Option (List Char × List Char)
  | [] => none
  | c :: rest =>
    if cls c then some ([], rest) else (splitAtFirst? cls rest).map fun (a, b) => (c :: a, b)

/-- The values of a run of digits, which may be empty. -/
def digits? (cs : List Char) : Option (List Nat) := cs.mapM Text.asciiDigit?

/-- The part of a numeral before its power of ten: the digits, and how many follow the point. -/
def mantissa? (cs : List Char) : Option (List Nat × Nat) := do
  let (whole, part) := (splitAtFirst? (· == '.') cs).getD (cs, [])
  let a ← digits? whole
  let b ← digits? part
  if a.isEmpty && b.isEmpty then none else some (a ++ b, b.length)

/-- The power of ten of a numeral. -/
def power? (cs : List Char) : Option Int := do
  let (negative, body) := Text.takeSign cs
  let ds ← digits? body
  if ds.isEmpty then none else some (Text.signed negative (Text.ofDigits ds))

/-- Read an unsigned decimal fraction. -/
def fraction? (negative : Bool) (cs : List Char) : Option Fraction := do
  let (front, exponent) ← match splitAtFirst? (fun c => c == 'e' || c == 'E') cs with
    | none => some (cs, 0)
    | some (front, back) => (power? back).map (front, ·)
  let (digits, places) ← mantissa? front
  return ⟨negative, digits, exponent - places⟩

/-- Read a floating point numeral: a decimal fraction, or one of the words for infinity and for
not-a-number in any case. -/
def double? (cs : List Char) : Option Double :=
  let (negative, body) := Text.takeSign cs
  let word := String.ofList (body.map Char.toLower)
  if word = "inf" ∨ word = "infinity" then some (.infinite negative)
  else if word = "nan" then some .nan
  else (fraction? negative body).map Fraction.toDouble

end IndexSync.Decimal
