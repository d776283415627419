import IndexSync.Text.Blank
import IndexSync.Text.Cells
import IndexSync.Text.Fields

/-!
# Lines on the console

Tabs are filled up with blanks to the next tab stop, and lines that are wider than the console are
broken between words, or inside of words that are too wide themselves.
-/

namespace IndexSync.Cli.Screen

/-- The columns between two tab stops. -/
def tabWidth : Nat := 8

/-- Put the parts of a line between tabs together, from a column on. Every tab becomes a blank and
as many more as it takes to reach a tab stop. -/
def joinTabbed (column : Nat) : List (List Char) → List Char
  | [] => []
  | [part] => part
  | part :: rest =>
    let filled := part ++ [' ']
    let reached := column + Text.cells filled
    let missing := (tabWidth - reached % tabWidth) % tabWidth
    filled ++ List.replicate missing ' ' ++ joinTabbed (reached + missing) rest

/-- A line with its tabs replaced by blanks. -/
def expandTabs (line : List Char) : List Char := joinTabbed 0 (Text.fields '\t' line)

/-- Drop the blanks at the end. -/
def dropEndBlanks (cs : List Char) : List Char := (cs.reverse.dropWhile Text.isBlank).reverse

/-- The words of a line, each with the blanks behind it, and the first with those in front. The
number bounds the words; a line of blanks has none. -/
def spacedWords : Nat → List Char → List (List Char)
  | 0, _ => []
  | bound + 1, cs =>
    let front := cs.takeWhile Text.isBlank
    let word := (cs.drop front.length).takeWhile fun c => !Text.isBlank c
    let behind := (cs.drop (front.length + word.length)).takeWhile Text.isBlank
    let all := front ++ word ++ behind
    if word.isEmpty then [] else all :: spacedWords bound (cs.drop all.length)

/-- Cut a word into pieces that fit on a line. The piece begun so far is given in reverse, with its
columns. -/
def chop (width : Nat) (piece : List Char) (column : Nat) : List Char → List (List Char)
  | [] => [piece.reverse]
  | c :: rest =>
    let w := Text.cellWidth c
    if width < column + w then piece.reverse :: chop width [c] w rest
    else chop width (c :: piece) (column + w) rest

/-- The starts of consecutive pieces, and the columns of the last one. -/
def pieceStarts (start : Nat) : List (List Char) → List Nat × Nat
  | [] => ([], 0)
  | [piece] => ([start], Text.cells piece)
  | piece :: rest =>
    let (starts, last) := pieceStarts (start + piece.length) rest
    (start :: starts, last)

/-- The places where a line is broken, given its words, the column reached and the place of the
first word. -/
def breaks (width column start : Nat) : List (List Char) → List Nat
  | [] => []
  | word :: rest =>
    let next := start + word.length
    let needed := Text.cells (dropEndBlanks word)
    if column + needed ≤ width then breaks width (column + Text.cells word) next rest
    else if width < needed then
      let (starts, last) := pieceStarts start (chop width [] 0 word)
      starts.filter (· != 0) ++ breaks width last next rest
    else if column ≠ 0 ∧ start ≠ 0 then start :: breaks width (Text.cells word) next rest
    else breaks width column next rest

/-- Cut a list at increasing places. -/
def cutAt (done : Nat) (cs : List Char) : List Nat → List (List Char)
  | [] => [cs]
  | place :: places => cs.take (place - done) :: cutAt place (cs.drop (place - done)) places

/-- A line without the blanks at its end that do not fit. -/
def dropExcess (width : Nat) (line : List Char) : List Char :=
  let blanks := line.length - (dropEndBlanks line).length
  line.take (line.length - min blanks (line.length - width))

/-- The lines that a line is broken into, on a console of some columns. -/
def wrap (width : Nat) (line : List Char) : List (List Char) :=
  -- No character takes more than two columns.
  if 2 * line.length ≤ width then [line]
  else (cutAt 0 line (breaks width 0 0 (spacedWords line.length line))).map (dropExcess width)

/-- The lines of a text as they are shown. -/
def lines (width : Nat) (cs : List Char) : List (List Char) :=
  (Text.fields '\n' cs).flatMap fun line => wrap width (expandTabs line)

end IndexSync.Cli.Screen
