import IndexSync.Text.Blank
import IndexSync.Text.Digit
import IndexSync.Text.Fields

/-!
# Integer numerals

An integer numeral is an optional sign and digits, where a single underscore may stand between two
digits. Numerals of more than `maxDigits` digits are not converted.
-/

namespace IndexSync.Text

/-- The longest numeral, in digits, that is converted to a number. -/
def maxDigits : Nat := 4300

/-- The number written by a list of digit values, most significant first. -/
def ofDigits (ds : List Nat) : Nat := ds.foldl (fun n d => n * 10 + d) 0

/-- Digit values of a text of digits in groups, with one underscore between groups. -/
def digitGroups? (value? : Char → Option Nat) (cs : List Char) : Option (List Nat) :=
  ((fields '_' cs).mapM fun (g : List Char) =>
    if g.isEmpty then none else g.mapM value?).map List.flatten

/-- Take a sign off the front: whether it is a minus, and the rest. -/
def takeSign : List Char → Bool × List Char
  | '-' :: rest => (true, rest)
  | '+' :: rest => (false, rest)
  | cs => (false, cs)

/-- A signed number. -/
def signed (negative : Bool) (n : Nat) : Int := if negative then -(n : Int) else n

/-- Read an integer numeral in the digits of any script, with white space around it allowed. -/
def integer? (s : String) : Option Int :=
  let (negative, body) := takeSign (trimList isSpacing s.toList)
  match digitGroups? digitValue? body with
  | some ds => if ds.length ≤ maxDigits then some (signed negative (ofDigits ds)) else none
  | none => none

end IndexSync.Text
