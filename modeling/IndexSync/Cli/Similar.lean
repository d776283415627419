/-!
# Similar names

Which of some names a mistyped name may have meant. Two texts are compared by the characters they
have in common: the longest block they share, and then what they share to the left and to the right
of it. The similarity is twice the number of shared characters over the number of all.
-/

namespace IndexSync.Cli

/-- The number of characters at which two texts start alike. -/
def commonStart : List Char → List Char → Nat
  | a :: as, b :: bs => if a = b then commonStart as bs + 1 else 0
  | _, _ => 0

/-- A block that two texts share. -/
structure Block where
  /-- Where it starts in the first text. -/
  left : Nat
  /-- Where it starts in the second text. -/
  right : Nat
  /-- Its length. -/
  size : Nat
  deriving DecidableEq, Repr

/-- The longer of two blocks, and the first of two of the same length. -/
def Block.longer (x y : Block) : Block := if x.size < y.size then y else x

/-- The blocks that start at a place of the first text, one for each place of the second. -/
def blocksAt (as bs : List Char) (left : Nat) : List Block :=
  (List.range bs.length).map fun right =>
    ⟨left, right, commonStart (as.drop left) (bs.drop right)⟩

/-- The longest block that two texts share, and of several the first one. -/
def longestBlock (as bs : List Char) : Block :=
  ((List.range as.length).flatMap (blocksAt as bs)).foldl Block.longer ⟨0, 0, 0⟩

/-- The number of characters that two texts share, with a bound on the number of blocks. -/
def sharedWithin : Nat → List Char → List Char → Nat
  | 0, _, _ => 0
  | bound + 1, as, bs =>
    let b := longestBlock as bs
    if b.size = 0 then 0
    else b.size + sharedWithin bound (as.take b.left) (bs.take b.right)
      + sharedWithin bound (as.drop (b.left + b.size)) (bs.drop (b.right + b.size))

/-- The number of characters that two texts share. -/
def shared (as bs : List Char) : Nat := sharedWithin as.length as bs

/-- A name with its similarity to another one, as a fraction. -/
structure Candidate where
  /-- The name. -/
  name : String
  /-- The number of shared characters. -/
  hits : Nat
  /-- The number of characters of both names together. -/
  total : Nat

/-- Compare a name with a mistyped one. -/
def candidate (word name : String) : Candidate :=
  ⟨name, shared name.toList word.toList, name.length + word.length⟩

/-- At least three fifths of the characters are shared. -/
def Candidate.isClose (c : Candidate) : Bool := decide (3 * c.total ≤ 10 * c.hits)

/-- The first candidate comes before the second: it is more similar, or as similar and later in the
alphabet. -/
def Candidate.before (c d : Candidate) : Bool :=
  if c.hits * d.total = d.hits * c.total then decide (d.name ≤ c.name)
  else decide (d.hits * c.total < c.hits * d.total)

/-- The most names that are suggested. -/
def maxSuggestions : Nat := 3

/-- The names that a mistyped name may have meant, the most similar first. -/
def similar (word : String) (names : List String) : List String :=
  ((((names.map (candidate word)).filter Candidate.isClose).mergeSort
    Candidate.before).take maxSuggestions).map Candidate.name

end IndexSync.Cli
