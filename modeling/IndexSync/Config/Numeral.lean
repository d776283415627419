import IndexSync.Decimal.Read

/-!
# Numbers in the texts of settings

A setting may give a number as a text. A plain integer is an optional minus and digits without
leading zeros. A text that is no plain integer is tidied once and read again: white space, one plus,
leading zeros, a fraction of zeros and underscores are taken away. A floating point number is read
after trimming, and if that fails, without its underscores.
-/

namespace IndexSync.Config

open Decimal (Double)

/-- Remove underscores, provided that each of them stands alone between other characters. -/
def ungroup? (cs : List Char) : Option (List Char) :=
  let groups := Text.fields '_' cs
  if groups.any List.isEmpty then none else some groups.flatten

/-- What a text is as a plain integer. -/
inductive PlainInteger where
  /-- It is this number. -/
  | number (n : Int)
  /-- It begins with a run of too many digits. -/
  | oversize
  /-- It is no plain integer. -/
  | malformed

/-- A digit other than zero. -/
def isCountingDigit (c : Char) : Bool := c.isDigit && c != '0'

/-- Read a plain integer. A minus counts towards the greatest length. -/
def PlainInteger.read (cs : List Char) : PlainInteger :=
  let sign := cs.takeWhile (· == '-')
  let body := cs.drop sign.length
  let run := body.takeWhile Char.isDigit
  if 1 < sign.length then .malformed
  else if body == ['0'] then .number 0
  else if !(body.take 1).any isCountingDigit then .malformed
  else if Text.maxDigits < sign.length + run.length then .oversize
  else if run.length < body.length then .malformed
  else .number (Text.signed (!sign.isEmpty) (Text.ofDigits (run.filterMap Text.asciiDigit?)))

/-- The rest of a text whose last character read is a zero or an underscore: further ones are
skipped, but one of them stays in front of a point and at the end. -/
def skipZeros? (last : Char) : List Char → Option (List Char)
  | [] => some [last]
  | c :: rest =>
    if c == '0' || c == '_' then skipZeros? c rest
    else if c == '-' || isCountingDigit c then some (c :: rest)
    else if c == '.' then some (last :: c :: rest)
    else none

/-- A text without leading zeros. It begins with a digit or a minus. -/
def withoutZeros? : List Char → Option (List Char)
  | [] => none
  | c :: rest =>
    if c == '0' then skipZeros? c rest
    else if c == '-' || isCountingDigit c then some (c :: rest)
    else none

/-- A text without one leading plus, after which no minus may stand. -/
def withoutPlus? : List Char → Option (List Char)
  | '+' :: '-' :: _ => none
  | '+' :: rest => some rest
  | cs => some cs

/-- A text without a fraction that consists of zeros. -/
def withoutZeroFraction (cs : List Char) : List Char :=
  let whole := cs.takeWhile (· != '.')
  let zeros := cs.drop (whole.length + 1)
  if zeros.isEmpty || zeros.any (· != '0') then cs else whole

/-- A text with everything taken away that may surround a plain integer. -/
def tidy? (cs : List Char) : Option (List Char) := do
  let digits ← withoutZeros? (← withoutPlus? (Text.trimList Text.isSpacing cs))
  let whole := withoutZeroFraction digits
  return (ungroup? whole).getD whole

/-- The integer that a text stands for. Only a text as it was given can be too long. -/
def readInteger (s : String) : PlainInteger :=
  match PlainInteger.read s.toList with
  | .malformed =>
    match (tidy? s.toList).map PlainInteger.read with
    | some (.number n) => .number n
    | _ => .malformed
  | reading => reading

/-- The floating point number that a text stands for. -/
def readNumber? (s : String) : Option Double :=
  match Decimal.double? (Text.trimList Text.isSpacing s.toList) with
  | some x => some x
  | none => (ungroup? s.toList).bind Decimal.double?

end IndexSync.Config
