import IndexSync.Text.Quoted

/-!
# Texts with unpaired surrogates

A document can write a half of a surrogate pair without the other half. The result is a sequence of
code points that is no text. It can still be quoted, and shown with a replacement for the halves.
-/

namespace IndexSync.Text

/-- A sequence of code points, which may be halves of surrogate pairs. -/
abbrev CodePoints := List Nat

/-- A code point that is half of a surrogate pair. -/
def isHalf (n : Nat) : Bool := decide (0xd800 ≤ n) && decide (n < 0xe000)

/-- The number of a character is no half of a surrogate pair. -/
theorem isHalf_toNat (c : Char) : isHalf c.toNat = false := by
  have hvalid : c.toNat.isValidChar := c.valid
  simp only [Nat.isValidChar] at hvalid
  simp only [isHalf, Bool.and_eq_false_iff, decide_eq_false_iff_not]
  omega

/-- The code points of a text. -/
def codePoints (s : String) : CodePoints := s.toList.map Char.toNat

namespace CodePoints

/-- The character of a code point; half of a pair becomes the replacement character. -/
def charOf (n : Nat) : Char := if isHalf n then '\ufffd' else Char.ofNat n

/-- The text with replacement characters for halves of pairs. -/
def lossy (codes : CodePoints) : String := String.ofList (codes.map charOf)

/-- The text, if there are no halves of pairs. -/
def text? (codes : CodePoints) : Option String :=
  if codes.any isHalf then none else some codes.lossy

/-- One code point as it is shown between the given quotes. -/
def quotePoint (q : Char) (n : Nat) : List Char :=
  if isHalf n then '\\' :: 'u' :: hexDigits 4 n else quoteChar q (Char.ofNat n)

/-- The code points between quotes. -/
def quote (codes : CodePoints) : String :=
  let q := quoteFor codes.lossy.toList
  String.ofList (q :: codes.flatMap (quotePoint q) ++ [q])

/-- A half that stands for a byte that is no part of a character. -/
def isByteHalf (n : Nat) : Bool := decide (0xdc80 ≤ n) && decide (n < 0xdd00)

/-- The halves that have no bytes: the index of the first one, and the halves from there to the end
of their run. -/
def unencodable? (codes : CodePoints) : Option (Nat × CodePoints) :=
  let before := codes.takeWhile fun n => !isHalf n || isByteHalf n
  match (codes.drop before.length).takeWhile isHalf with
  | [] => none
  | run => some (before.length, run)

/-- The wording of the refusal to encode halves, from the given index on. -/
def refusal (index : Nat) (codes : CodePoints) : String :=
  "'utf-8' codec can't encode character" ++ (match codes with
    | [n] => " '\\u" ++ String.ofList (hexDigits 4 n) ++ "' in position " ++ toString index
    | _ => "s in position " ++ toString index ++ "-" ++ toString (index + codes.length - 1))
    ++ ": surrogates not allowed"

/-- The text with a null character for every half: no call on files takes the one or the other. -/
def veiled (codes : CodePoints) : String :=
  String.ofList (codes.map fun n => if isHalf n then '\x00' else Char.ofNat n)

end CodePoints

end IndexSync.Text
