import IndexSync.Text.Ranges

/-!
# Blank characters and trimming

Two character classes are in use. `isBlank` is the wider one: it also holds the four information
separators. `isSpacing` is the standard's own white space property.
-/

namespace IndexSync.Text

/-- The white space property of the character standard. -/
def spacingRanges : Ranges :=
  [(0x9, 0xd), (0x20, 0x20), (0x85, 0x85), (0xa0, 0xa0), (0x1680, 0x1680), (0x2000, 0x200a),
   (0x2028, 0x2029), (0x202f, 0x202f), (0x205f, 0x205f), (0x3000, 0x3000)]

/-- A character with the white space property. -/
def isSpacing (c : Char) : Bool := spacingRanges.covers c

/-- White space and the information separators `U+001C` to `U+001F`. -/
def isBlank (c : Char) : Bool :=
  isSpacing c || (decide (0x1c ≤ c.toNat) && decide (c.toNat ≤ 0x1f))

/-- Drop the characters of a class from both ends. -/
def trimList (cls : Char → Bool) (cs : List Char) : List Char :=
  ((cs.dropWhile cls).reverse.dropWhile cls).reverse

/-- Drop the characters of a class from both ends of a text. -/
def trim (cls : Char → Bool) (s : String) : String := String.ofList (trimList cls s.toList)

/-- The text without blanks at either end. -/
def strip (s : String) : String := trim isBlank s

/-- The words of a text after the characters of a word, which are given in reverse. -/
def wordsFrom : List Char → List Char → List (List Char)
  | [], [] => []
  | word, [] => [word.reverse]
  | word, c :: rest =>
    if !isBlank c then wordsFrom (c :: word) rest
    else if word.isEmpty then wordsFrom [] rest
    else word.reverse :: wordsFrom [] rest

/-- The words of a text: the runs of characters between blanks. -/
def words (cs : List Char) : List (List Char) := wordsFrom [] cs

end IndexSync.Text
