import IndexSync.Text.LetterCase

/-!
# Lower case

The full lower-case mapping of a text. All letters but two have one lower-case letter that does not
depend on their neighbours. The capital I with dot becomes an i followed by a combining dot, and
the capital sigma takes its final form at the end of a word: after a cased letter and not before
one, where characters that do not matter to case are skipped in both directions.
-/

namespace IndexSync.Text

/-- The lower-case form of a character by itself; the capital sigma is not decided here. -/
def lowerChar (c : Char) : List Char :=
  if c = 'İ' then ['i', '\u0307']
  else match caseRuns.find? (·.contains c.toNat) with
    | some r => [Char.ofNat ((c.toNat : Int) + r.shift).toNat]
    | none => [c]

/-- The first character that matters to case is a cased letter. -/
def meetsCased (cs : List Char) : Bool :=
  match cs.dropWhile caseIgnorableRanges.covers with
  | [] => false
  | c :: _ => casedRanges.covers c

/-- Whether a sigma ends a word, given what precedes it, nearest first, and what follows it. -/
def endsWord (before after : List Char) : Bool := meetsCased before && !meetsCased after

/-- Lower-case the rest of a text after the reversed part `before`. -/
def lowerAfter (before : List Char) : List Char → List Char
  | [] => []
  | c :: rest =>
    (if c = 'Σ' then [if endsWord before rest then 'ς' else 'σ'] else lowerChar c)
      ++ lowerAfter (c :: before) rest

/-- The lower-case form of a list of characters. -/
def lowerList (cs : List Char) : List Char := lowerAfter [] cs

/-- The lower-case form of a text. -/
def lower (s : String) : String := String.ofList (lowerList s.toList)

end IndexSync.Text
