import IndexSync.Decimal.Read
import IndexSync.Json.Error
import IndexSync.Value

/-!
# Reading documents

A reader for JSON documents that also accepts the words for infinity and not-a-number. Of members
with the same name the last one counts, in the place of the first.
-/

namespace IndexSync.Json

/-- A place in a document: its index and the characters from there on. -/
structure Cursor where
  /-- How many characters precede the place. -/
  index : Nat
  /-- The characters that follow. -/
  rest : List Char

/-- What a reader returns: what it read and where it stopped. -/
abbrev Read (α : Type) := Except Error (α × Cursor)

/-- Refuse the document at an index. -/
def refuse {α : Type} (what : Complaint) (index : Nat) : Except Error α :=
  .error (.malformed what index)

/-- A character that may stand between the parts of a document. -/
def isGap (c : Char) : Bool := c == ' ' || c == '\t' || c == '\n' || c == '\r'

namespace Cursor

/-- Move over `n` characters. -/
def advance (c : Cursor) (n : Nat) : Cursor := ⟨c.index + n, c.rest.drop n⟩

/-- Move over the gap. -/
def skip (c : Cursor) : Cursor := c.advance (c.rest.takeWhile isGap).length

end Cursor

/-- The value of a hexadecimal digit. -/
def hexValue? (c : Char) : Option Nat :=
  if '0' ≤ c ∧ c ≤ '9' then some (c.toNat - 48)
  else if 'a' ≤ c ∧ c ≤ 'f' then some (c.toNat - 87)
  else if 'A' ≤ c ∧ c ≤ 'F' then some (c.toNat - 55)
  else none

/-- The number written by the first four characters, all hexadecimal digits. -/
def hex4? : List Char → Option Nat
  | a :: b :: c :: d :: _ => do
    let w ← hexValue? a
    let x ← hexValue? b
    let y ← hexValue? c
    let z ← hexValue? d
    return ((w * 16 + x) * 16 + y) * 16 + z
  | _ => none

/-- A code unit that starts a pair. -/
def isHighUnit (n : Nat) : Bool := decide (0xd800 ≤ n) && decide (n < 0xdc00)

/-- A code unit that ends a pair. -/
def isLowUnit (n : Nat) : Bool := decide (0xdc00 ≤ n) && decide (n < 0xe000)

/-- Read the code point after a backslash and the letter u at the given index. The result is the
code point and the number of characters read. Half of a pair stands for itself. -/
def readCodePoint (index : Nat) (cs : List Char) : Except Error (Nat × Nat) :=
  -- Four digits at the very end cannot be followed by a closing quote.
  if (cs.drop 4).isEmpty then refuse .codePoint index
  else match hex4? cs with
    | none => refuse .codePoint index
    | some n =>
      match isHighUnit n && !(cs.drop 10).isEmpty, cs.drop 4 with
      | true, '\\' :: 'u' :: more =>
        match hex4? more with
        | none => refuse .codePoint (index + 6)
        | some m =>
          if isLowUnit m then
            .ok (0x10000 + (n - 0xd800) * 0x400 + (m - 0xdc00), 10)
          else .ok (n, 4)
      | _, _ => .ok (n, 4)

/-- The character that a backslash and a letter stand for. -/
def unescape? : Char → Option Char
  | '"' => some '"'
  | '\\' => some '\\'
  | '/' => some '/'
  | 'b' => some '\x08'
  | 'f' => some '\x0c'
  | 'n' => some '\n'
  | 'r' => some '\r'
  | 't' => some '\t'
  | _ => none

/-- Read a text up to its closing quote. The text was opened at the index `start`. -/
def readChars (start index : Nat) (cs : List Char) : Read Text.CodePoints :=
  match cs with
  | [] => refuse .unterminated start
  | c :: rest =>
    if c = '"' then .ok ([], ⟨index + 1, rest⟩)
    else if c = '\\' then
      match rest with
      | [] => refuse .unterminated start
      | e :: rest =>
        if e = 'u' then
          match readCodePoint (index + 1) rest with
          | .error err => .error err
          | .ok (code, n) =>
            match readChars start (index + 2 + n) (rest.drop n) with
            | .ok (codes, cur) => .ok (code :: codes, cur)
            | .error err => .error err
        else match unescape? e with
          | none => refuse .escape index
          | some ch =>
            match readChars start (index + 2) rest with
            | .ok (codes, cur) => .ok (ch.toNat :: codes, cur)
            | .error err => .error err
    else if c.toNat < 0x20 then refuse .control index
    else
      match readChars start (index + 1) rest with
      | .ok (codes, cur) => .ok (c.toNat :: codes, cur)
      | .error err => .error err
  termination_by cs.length
  decreasing_by all_goals (simp; try omega)

/-- Read a text at its opening quote. -/
def readText (c : Cursor) : Read Value :=
  match readChars c.index (c.index + 1) (c.rest.drop 1) with
  | .ok (codes, cur) => .ok (Value.ofCodePoints codes, cur)
  | .error err => .error err

/-- An ASCII digit. -/
def isDigit (c : Char) : Bool := decide ('0' ≤ c) && decide (c ≤ '9')

/-- The digits at the front. -/
def leadingDigits (cs : List Char) : List Char := cs.takeWhile isDigit

/-- The whole part of a number without its sign: a zero, or digits that do not start with one. -/
def wholePart : List Char → List Char
  | '0' :: _ => ['0']
  | cs => leadingDigits cs

/-- The digits after a point, if there are any. -/
def decimals : List Char → List Char
  | '.' :: rest => leadingDigits rest
  | _ => []

/-- The sign and the digits of a power of ten, if there are any, and how many characters it has. -/
def powerPart : List Char → Option (Bool × List Char × Nat)
  | e :: rest =>
    if e = 'e' ∨ e = 'E' then
      let (negative, body) := Text.takeSign rest
      let ds := leadingDigits body
      if ds.isEmpty then none
      else some (negative, ds, 1 + (rest.length - body.length) + ds.length)
    else none
  | [] => none

/-- The values of ASCII digits. -/
def digitValues (cs : List Char) : List Nat := cs.map fun c => c.toNat - 48

/-- Read a number; `none` if none starts here. -/
def readNumber? (c : Cursor) : Option (Read Value) :=
  let (negative, body, signLength) := match c.rest with
    | '-' :: rest => (true, rest, 1)
    | cs => (false, cs, 0)
  let whole := wholePart body
  if whole.isEmpty then none
  else
    let rest := body.drop whole.length
    let places := decimals rest
    let placesLength := if places.isEmpty then 0 else places.length + 1
    let power := powerPart (rest.drop placesLength)
    let cur := c.advance (signLength + whole.length + placesLength)
    if places.isEmpty && power.isNone then
      if whole.length ≤ Text.maxDigits then
        some (.ok (.int (Text.signed negative (Text.ofDigits (digitValues whole))), cur))
      else some (.error (.tooLong whole.length))
    else
      let (exponent, powerLength) := match power with
        | none => (0, 0)
        | some (neg, ds, n) => (Text.signed neg (Text.ofDigits (digitValues ds)), n)
      let f : Decimal.Fraction :=
        ⟨negative, digitValues (whole ++ places), exponent - (places.length : Int)⟩
      some (.ok (.float f.toDouble, cur.advance powerLength))

/-- The words that stand for values. -/
def words : List (String × Value) :=
  [("null", .null), ("true", .bool true), ("false", .bool false), ("NaN", .float .nan),
   ("Infinity", .float (.infinite false)), ("-Infinity", .float (.infinite true))]

/-- Read one of the words. -/
def readWord? (c : Cursor) : Option (Value × Cursor) :=
  (words.find? fun (w, _) => w.toList.isPrefixOf c.rest).map
    fun (w, v) => (v, c.advance w.length)

/-- The most containers that may stand inside one another. -/
def maxDepth : Nat := 990

mutual

/-- Read a value. The first argument bounds the number of nested readings, the second the number of
containers that may still be opened. -/
def readValue : Nat → Nat → Cursor → Read Value
  | 0, _, c => refuse .value c.index
  | fuel + 1, depth, c =>
    match c.rest, depth with
    | '"' :: _, _ => readText c
    | '[' :: _, 0 => .error (.tooDeep .array)
    | '[' :: _, depth + 1 =>
      let c' := (c.advance 1).skip
      match c'.rest with
      | ']' :: _ => .ok (.list [], c'.advance 1)
      | _ =>
        match readItems fuel depth c' with
        | .ok (items, cur) => .ok (.list items, cur)
        | .error err => .error err
    | '\x7b' :: _, 0 => .error (.tooDeep .object)
    | '\x7b' :: _, depth + 1 =>
      let c' := (c.advance 1).skip
      match c'.rest with
      | '\x7d' :: _ => .ok (.map [], c'.advance 1)
      | _ =>
        match readMembers fuel depth [] c' with
        | .ok (members, cur) => .ok (.map members, cur)
        | .error err => .error err
    | _, _ =>
      match readWord? c with
      | some found => .ok found
      | none => (readNumber? c).getD (refuse .value c.index)

/-- Read the items of a list, up to its closing bracket. -/
def readItems : Nat → Nat → Cursor → Read (List Value)
  | 0, _, c => refuse .value c.index
  | fuel + 1, depth, c =>
    match readValue fuel depth c with
    | .error err => .error err
    | .ok (item, cur) =>
      let cur := cur.skip
      match cur.rest with
      | ']' :: _ => .ok ([item], cur.advance 1)
      | ',' :: _ =>
        match readItems fuel depth (cur.advance 1).skip with
        | .ok (items, cur) => .ok (item :: items, cur)
        | .error err => .error err
      | _ => refuse .comma cur.index

/-- Read the members of an object, up to its closing brace, after those in `done`. -/
def readMembers : Nat → Nat → Entries → Cursor → Read Entries
  | 0, _, _, c => refuse .value c.index
  | fuel + 1, depth, done, c =>
    match c.rest with
    | '"' :: _ =>
      match readText c with
      | .error err => .error err
      | .ok (name, cur) =>
        let cur := cur.skip
        match cur.rest with
        | ':' :: _ =>
          match readValue fuel depth (cur.advance 1).skip with
          | .error err => .error err
          | .ok (v, cur) =>
            -- A repeated name keeps its first place and takes its last value.
            let done := Value.insert done name v
            let cur := cur.skip
            match cur.rest with
            | '\x7d' :: _ => .ok (done, cur.advance 1)
            | ',' :: _ => readMembers fuel depth done (cur.advance 1).skip
            | _ => refuse .comma cur.index
        | _ => refuse .colon cur.index
    | _ => refuse .name c.index

end

/-- Read a document. -/
def read (text : String) : Except Error Value :=
  let cs := text.toList
  match cs with
  | '\ufeff' :: _ => refuse .byteOrderMark 0
  | _ =>
    match readValue (2 * cs.length + 2) maxDepth (Cursor.skip ⟨0, cs⟩) with
    | .error err => .error err
    | .ok (v, cur) =>
      let cur := cur.skip
      if cur.rest.isEmpty then .ok v else refuse .extra cur.index

end IndexSync.Json
