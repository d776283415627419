import IndexSync.Decimal.Shortest

/-!
# The written form of a double

The shortest digits that read back, written positionally for moderate magnitudes and with a power
of ten otherwise. The form always shows that the number is not an integer.
-/

namespace IndexSync.Decimal

/-- The decisions of a number format. -/
structure Layout where
  /-- Numbers with at most this many digits before the point are written positionally. -/
  maxWhole : Int
  /-- Numbers with fewer than this many zeros after the point are written positionally. -/
  maxZeros : Int
  /-- The least number of digits of a power of ten. -/
  powerWidth : Nat
  /-- The texts of infinity and of not-a-number. -/
  infinity : String
  /-- The text of not-a-number. -/
  notANumber : String

/-- Numbers in messages: positional from `0.0001` up to sixteen digits, two-digit powers of ten. -/
def Layout.message : Layout := ⟨16, 4, 2, "inf", "nan"⟩

/-- Numbers in documents: as in messages, with the document's words for what is not finite. -/
def Layout.document : Layout := ⟨16, 4, 2, "Infinity", "NaN"⟩

/-- Drop zeros at the end of the digits of a number. -/
def stripZeros (ds : List Char) : List Char :=
  match (ds.reverse.dropWhile (· == '0')).reverse with
  | [] => ['0']
  | rest => rest

/-- Zeros in front of a number up to a width. -/
def padLeft (width : Nat) (ds : List Char) : List Char :=
  List.replicate (width - ds.length) '0' ++ ds

/-- Digits `ds` whose point stands after `point` places, written with a point. -/
def positional (ds : List Char) (point : Int) : List Char :=
  if point ≤ 0 then '0' :: '.' :: (List.replicate (-point).toNat '0' ++ ds)
  else if (ds.length : Int) ≤ point then
    ds ++ List.replicate (point - ds.length).toNat '0' ++ ['.', '0']
  else ds.take point.toNat ++ '.' :: ds.drop point.toNat

/-- Digits with the point after the first one, and a power of ten. -/
def withPower (width : Nat) (ds : List Char) (power : Int) : List Char :=
  let body := match ds with
    | [] => ['0']
    | [d] => [d]
    | d :: rest => d :: '.' :: rest
  let sign := if power < 0 then '-' else '+'
  body ++ 'e' :: sign :: padLeft width (Nat.toDigits 10 power.natAbs)

/-- A double in a format. -/
def Layout.render (l : Layout) : Double → String
  | .nan => l.notANumber
  | .infinite negative => if negative then "-" ++ l.infinity else l.infinity
  | .finite negative m e =>
    let body :=
      if m = 0 then ['0', '.', '0']
      else
        let x := shortest m e
        let ds := Nat.toDigits 10 x.digits
        let point : Int := ds.length + x.exponent
        if -l.maxZeros < point ∧ point ≤ l.maxWhole then positional (stripZeros ds) point
        else withPower l.powerWidth (stripZeros ds) (point - 1)
    String.ofList (if negative then '-' :: body else body)

end IndexSync.Decimal
