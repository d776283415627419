import IndexSync.Value

/-!
# Writing documents

Values as JSON documents in ASCII: other characters are written by their UTF-16 code units. There
are two forms, on one line and indented by two blanks a level.
-/

namespace IndexSync.Json

open Decimal (Layout)

/-- A code unit as an escape. -/
def unitEscape (n : Nat) : List Char := '\\' :: 'u' :: Text.hexDigits 4 n

/-- One character of a text, escaped if need be. -/
def escapeChar (c : Char) : List Char :=
  if c = '"' then ['\\', '"']
  else if c = '\\' then ['\\', '\\']
  else if c = '\n' then ['\\', 'n']
  else if c = '\r' then ['\\', 'r']
  else if c = '\t' then ['\\', 't']
  else if c = '\x08' then ['\\', 'b']
  else if c = '\x0c' then ['\\', 'f']
  else if 0x20 ≤ c.toNat ∧ c.toNat < 0x7f then [c]
  else if c.toNat < 0x10000 then unitEscape c.toNat
  else
    let n := c.toNat - 0x10000
    unitEscape (0xd800 + n / 0x400) ++ unitEscape (0xdc00 + n % 0x400)

/-- A text in quotes. -/
def writeText (s : String) : List Char := '"' :: s.toList.flatMap escapeChar ++ ['"']

/-- One code point, where half of a surrogate pair is its own code unit. -/
def escapePoint (n : Nat) : List Char :=
  if Text.isHalf n then unitEscape n else escapeChar (Char.ofNat n)

/-- A value that holds no other values. -/
def writeScalar : Value → List Char
  | .null => "null".toList
  | .bool b => if b then "true".toList else "false".toList
  | .int n => (toString n).toList
  | .float x => (Layout.document.render x).toList
  | .str s => writeText s
  | .unpaired codes => '"' :: codes.flatMap escapePoint ++ ['"']
  | .path p => writeText p.text
  | _ => []

/-- The name of an entry of an object. -/
def writeKey (key : Value) : List Char := writeScalar key.textKey

@[simp]
theorem writeKey_str (s : String) : writeKey (.str s) = writeText s := rfl

/-- How the parts of a list or an object are laid out. -/
structure Style where
  /-- What stands between an opening bracket and the first part, by nesting depth. -/
  opening : Nat → List Char
  /-- What stands between two parts, by nesting depth. -/
  between : Nat → List Char
  /-- What stands between the last part and the closing bracket, by nesting depth. -/
  closing : Nat → List Char

/-- All on one line. -/
def Style.line : Style := ⟨fun _ => [], fun _ => [',', ' '], fun _ => []⟩

/-- A line break and two blanks for every level of nesting. -/
def lineBreak (depth : Nat) : List Char := '\n' :: List.replicate (2 * depth) ' '

/-- Every part on a line of its own. -/
def Style.indented : Style :=
  ⟨fun d => lineBreak (d + 1), fun d => ',' :: lineBreak (d + 1), lineBreak⟩

mutual

/-- Write a value at a nesting depth. -/
def write (style : Style) (depth : Nat) : Value → List Char
  | .list [] => ['[', ']']
  | .list (item :: items) =>
    '[' :: style.opening depth ++ write style (depth + 1) item
      ++ writeItems style depth items ++ style.closing depth ++ [']']
  | .tuple [] => ['[', ']']
  | .tuple (item :: items) =>
    '[' :: style.opening depth ++ write style (depth + 1) item
      ++ writeItems style depth items ++ style.closing depth ++ [']']
  | .map [] => ['\x7b', '\x7d']
  | .map ((key, v) :: entries) =>
    '\x7b' :: style.opening depth ++ writeKey key ++ ':' :: ' '
      :: write style (depth + 1) v ++ writeEntries style depth entries ++ style.closing depth
      ++ ['\x7d']
  | v => writeScalar v

/-- Write the items of a sequence after its first one. -/
def writeItems (style : Style) (depth : Nat) : List Value → List Char
  | [] => []
  | item :: items =>
    style.between depth ++ write style (depth + 1) item ++ writeItems style depth items

/-- Write the entries of a mapping after its first one. -/
def writeEntries (style : Style) (depth : Nat) : List (Value × Value) → List Char
  | [] => []
  | (key, v) :: entries =>
    style.between depth ++ writeKey key ++ ':' :: ' ' :: write style (depth + 1) v
      ++ writeEntries style depth entries

end

/-- A document on one line. -/
def compact (v : Value) : String := String.ofList (write .line 0 v)

/-- A document with every part on a line of its own. -/
def pretty (v : Value) : String := String.ofList (write .indented 0 v)

end IndexSync.Json
