import IndexSync.Text.Numeral

/-!
# Reading errors

What can be wrong with a document, where it is wrong, and the wording of both.
-/

namespace IndexSync.Json

/-- What a reader found wrong at a place of a document. -/
inductive Complaint where
  /-- No value starts here. -/
  | value
  /-- No name of a member starts here. -/
  | name
  /-- A name is not followed by a colon. -/
  | colon
  /-- A value is followed neither by a comma nor by a closing bracket. -/
  | comma
  /-- The text that starts here does not end. -/
  | unterminated
  /-- A control character stands in a text. -/
  | control
  /-- A backslash is followed by a character that needs none. -/
  | escape
  /-- A code point is not written with four hexadecimal digits. -/
  | codePoint
  /-- Something follows the document. -/
  | extra
  /-- The document starts with a byte order mark. -/
  | byteOrderMark
  deriving DecidableEq, Repr

/-- The wording of a complaint. -/
def Complaint.message : Complaint → String
  | .value => "Expecting value"
  | .name => "Expecting property name enclosed in double quotes"
  | .colon => "Expecting ':' delimiter"
  | .comma => "Expecting ',' delimiter"
  | .unterminated => "Unterminated string starting at"
  | .control => "Invalid control character at"
  | .escape => "Invalid \\escape"
  | .codePoint => "Invalid \\uXXXX escape"
  | .extra => "Extra data"
  | .byteOrderMark => "Unexpected UTF-8 BOM (decode using utf-8-sig)"

/-- A value that holds other values. -/
inductive Container where
  /-- A list of values. -/
  | array
  /-- A list of named values. -/
  | object
  deriving DecidableEq, Repr

/-- The name of a kind of container. -/
def Container.name : Container → String
  | .array => "array"
  | .object => "object"

/-- Why a document cannot be read. -/
inductive Error where
  /-- It is malformed at an index. -/
  | malformed (what : Complaint) (index : Nat)
  /-- It holds an integer with too many digits. -/
  | tooLong (digits : Nat)
  /-- A container stands inside too many others. -/
  | tooDeep (container : Container)
  deriving DecidableEq, Repr

/-- The line of an index, counted from one. -/
def lineOf (text : List Char) (index : Nat) : Nat := (text.take index).count '\n' + 1

/-- The column of an index, counted from one. -/
def columnOf (text : List Char) (index : Nat) : Nat :=
  ((text.take index).reverse.takeWhile (· != '\n')).length + 1

/-- The wording of a reading error of a text. -/
def Error.message (text : String) : Error → String
  | .malformed what index =>
    what.message ++ ": line " ++ toString (lineOf text.toList index) ++ " column "
      ++ toString (columnOf text.toList index) ++ " (char " ++ toString index ++ ")"
  | .tooLong digits =>
    "Exceeds the limit (" ++ toString Text.maxDigits
      ++ " digits) for integer string conversion: value has " ++ toString digits
      ++ " digits; use sys.set_int_max_str_digits() to increase the limit"
  | .tooDeep container =>
    "maximum recursion depth exceeded while decoding a JSON " ++ container.name
      ++ " from a unicode string"

end IndexSync.Json
