import IndexSync.Failure
import IndexSync.FsPath

/-!
# Manifest patterns

A pattern is a relative path whose segments may hold wildcards. `*` stands for any characters, `?`
for one, and brackets for one character of a set, or not of it after `!`. A segment `**` stands for
any number of directories.
-/

namespace IndexSync

/-- A part of a name pattern. -/
inductive Glyph where
  /-- Any number of characters. -/
  | many
  /-- Any one character. -/
  | one
  /-- This character. -/
  | char (c : Char)
  /-- One character of a set of characters and ranges, or outside of it. -/
  | set (negated : Bool) (chars : List Char) (ranges : List (Char × Char))
  deriving DecidableEq, Repr

namespace Glyph

/-- Whether a glyph that stands for one character accepts it. -/
def accepts (c : Char) : Glyph → Bool
  | .many => true
  | .one => true
  | .char d => c == d
  | .set negated chars ranges =>
    negated != (chars.contains c || ranges.any fun r => decide (r.1 ≤ c) && decide (c ≤ r.2))

/-- For every suffix of a name, longest first, whether no glyphs match it: only the last does. -/
def lastOnly : List Char → List Bool
  | [] => [true]
  | _ :: rest => false :: lastOnly rest

/-- For every suffix, whether a glyph for one character and then further glyphs match it. What the
further glyphs match is given. -/
def stepOne (g : Glyph) : List Char → List Bool → List Bool
  | c :: cs, _ :: row => (g.accepts c && row.headD false) :: stepOne g cs row
  | _, _ => [false]

/-- For every suffix, whether any number of characters and then further glyphs match it. -/
def stepMany : List Bool → List Bool
  | [] => []
  | b :: row =>
    let rest := stepMany row
    (b || rest.headD false) :: rest

/-- For every suffix of a name, longest first, whether glyphs match it. -/
def matchRow (cs : List Char) : List Glyph → List Bool
  | [] => lastOnly cs
  | .many :: glyphs => stepMany (matchRow cs glyphs)
  | g :: glyphs => stepOne g cs (matchRow cs glyphs)

/-- Whether glyphs match the whole of a name. -/
def matchAll (glyphs : List Glyph) (cs : List Char) : Bool := (matchRow cs glyphs).headD false

/-- The row of a name goes on with the row of the name without its first character. -/
theorem matchRow_cons (c : Char) (cs : List Char) (glyphs : List Glyph) :
    matchRow (c :: cs) glyphs = matchAll glyphs (c :: cs) :: matchRow cs glyphs := by
  suffices h : ∃ b, matchRow (c :: cs) glyphs = b :: matchRow cs glyphs by
    obtain ⟨b, hb⟩ := h
    simp [matchAll, hb]
  induction glyphs with
  | nil => exact ⟨false, rfl⟩
  | cons g glyphs ih =>
    obtain ⟨b, hb⟩ := ih
    cases g <;> simp [matchRow, hb, stepOne, stepMany]

/-- No glyphs match the empty name only. -/
theorem matchAll_nil (cs : List Char) : matchAll [] cs = cs.isEmpty := by
  cases cs <;> rfl

/-- A star matches nothing, or one character and then what a star matches. -/
theorem matchAll_many_cons (glyphs : List Glyph) (c : Char) (cs : List Char) :
    matchAll (.many :: glyphs) (c :: cs) =
      (matchAll glyphs (c :: cs) || matchAll (.many :: glyphs) cs) := by
  show (stepMany (matchRow (c :: cs) glyphs)).headD false = _
  rw [matchRow_cons]
  rfl

/-- A glyph for one character matches a character that it accepts. -/
theorem matchAll_cons_cons {g : Glyph} (hg : g ≠ .many) (glyphs : List Glyph) (c : Char)
    (cs : List Char) : matchAll (g :: glyphs) (c :: cs) = (g.accepts c && matchAll glyphs cs) := by
  have hrow : matchRow (c :: cs) (g :: glyphs) =
      stepOne g (c :: cs) (matchRow (c :: cs) glyphs) := by
    cases g <;> simp_all [matchRow]
  rw [matchAll, hrow, matchRow_cons]
  rfl

end Glyph

namespace Bracket

/-- Split the inside of a bracket at the hyphens that make ranges. A hyphen does not make a range
at the start, right after the end of a range, or at the end; `skip` counts the characters ahead
that cannot be such a hyphen. -/
def chunks (skip : Nat) : List Char → List (List Char)
  | [] => [[]]
  | c :: rest =>
    match skip with
    | skip + 1 => extend c (chunks skip rest)
    | 0 => if c = '-' then [] :: chunks 2 rest else extend c (chunks 0 rest)
where
  /-- Put a character in front of the first chunk. -/
  extend (c : Char) : List (List Char) → List (List Char)
    | [] => [[c]]
    | chunk :: more => (c :: chunk) :: more

/-- A hyphen at the end makes no range: it belongs to the chunk before it. -/
def mendEnd : List (List Char) → List (List Char)
  | [] => []
  | [chunk] => [chunk]
  | [chunk, []] => [chunk ++ ['-']]
  | chunk :: next :: more => chunk :: mendEnd (next :: more)

/-- Drop the ranges whose ends are out of order, from the last one on. Their end characters are
dropped with them. -/
def dropEmpty : List (List Char) → List (List Char)
  | [] => []
  | chunk :: more =>
    match dropEmpty more with
    | [] => [chunk]
    | next :: rest =>
      match chunk.getLast?, next with
      | some a, b :: tail =>
        if b < a then (chunk.dropLast ++ tail) :: rest else chunk :: next :: rest
      | _, _ => chunk :: next :: rest

/-- The ranges between neighbouring chunks. -/
def ranges : List (List Char) → List (Char × Char)
  | chunk :: next :: more =>
    match chunk.getLast?, next.head? with
    | some a, some b => (a, b) :: ranges (next :: more)
    | _, _ => ranges (next :: more)
  | _ => []

/-- How many characters at the start cannot be the hyphen of a range. -/
def leadIn : List Char → Nat
  | '!' :: _ => 2
  | _ => 1

/-- The set that chunks describe, where hyphens between them make ranges. An exclamation mark at the
very start negates the set, and a hyphen right after it stands for itself. -/
def ofChunks : List (List Char) → Glyph
  | ['!'] :: next :: more => .set true ('-' :: (next :: more).flatten) (ranges (next :: more))
  | ('!' :: chunk) :: more => .set true (chunk :: more).flatten (ranges (chunk :: more))
  | parts => .set false parts.flatten (ranges parts)

/-- The set that the inside of a bracket describes. -/
def parse (inside : List Char) : Glyph :=
  ofChunks (dropEmpty (mendEnd (chunks (leadIn inside) inside)))

/-- The inside of a bracket and what follows it; `none` if the bracket is not closed. A closing
bracket right at the start belongs to the inside. -/
def inside? (cs : List Char) : Option (List Char × List Char) :=
  let start := match cs with
    | '!' :: ']' :: _ => 2
    | '!' :: _ => 1
    | ']' :: _ => 1
    | _ => 0
  let body := (cs.drop start).takeWhile (· != ']')
  match cs.drop (start + body.length) with
  | [] => none
  | _ :: rest => some (cs.take (start + body.length), rest)

end Bracket

/-- Read the glyphs of a name pattern; the number bounds the characters read. -/
def glyphsFrom : Nat → List Char → List Glyph
  | 0, _ => []
  | _ + 1, [] => []
  | fuel + 1, c :: rest =>
    if c = '*' then .many :: glyphsFrom fuel rest
    else if c = '?' then .one :: glyphsFrom fuel rest
    else if c = '[' then
      match Bracket.inside? rest with
      | some (inside, rest) => Bracket.parse inside :: glyphsFrom fuel rest
      | none => .char '[' :: glyphsFrom fuel rest
    else .char c :: glyphsFrom fuel rest

/-- The glyphs of a name pattern. -/
def glyphs (name : String) : List Glyph := glyphsFrom name.length name.toList

/-- A segment of a pattern. -/
inductive Segment where
  /-- This very name. -/
  | exact (name : String)
  /-- Any name that the glyphs match. -/
  | wild (glyphs : List Glyph)
  /-- Any number of directories. -/
  | recursive
  deriving DecidableEq, Repr

/-- Two stars stand side by side. -/
def hasDoubleStar : List Char → Bool
  | c :: d :: rest => (c == '*' && d == '*') || hasDoubleStar (d :: rest)
  | _ => false

/-- Read a segment. -/
def Segment.parse (name : String) : Except PatternFault Segment :=
  if name = "**" then .ok .recursive
  else if hasDoubleStar name.toList then .error .partialRecursion
  else if name.toList.any fun c => c == '*' || c == '?' || c == '[' then .ok (.wild (glyphs name))
  else .ok (.exact name)

/-- A manifest pattern. -/
structure Pattern where
  /-- Its segments. -/
  segments : List Segment
  /-- A match has to be a directory. -/
  directory : Bool
  deriving DecidableEq, Repr

/-- Read a pattern. -/
def Pattern.parse (text : String) : Except PatternFault Pattern :=
  if text = "" then .error .empty
  else
    let p := FsPath.parse text
    let directory := text.toList.getLast? == some '/'
    -- The order of the refusals shows in messages: a bare root is absolute before it is empty.
    if p.isAbsolute then .error .absolute
    else if p.names = [] then .error (if directory then .bareDirectory else .noSegment)
    else (p.names.mapM Segment.parse).map (⟨·, directory⟩)

end IndexSync
