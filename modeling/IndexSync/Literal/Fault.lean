import IndexSync.Text.Quoted

/-!
# Faults of literals

Why a text is no literal, and the wording of the reasons.
-/

namespace IndexSync.Literal

/-- Why a text is no literal. -/
inductive Fault where
  /-- A quoted text does not end on its line. -/
  | unterminated (line : Nat)
  /-- A text in triple quotes does not end; the last line of the literal is given. -/
  | unterminatedLong (line : Nat)
  /-- A bracket closes nothing. -/
  | unmatched (close : Char)
  /-- A bracket closes one of another kind. -/
  | mismatched (close opening : Char)
  /-- A bracket is not closed. -/
  | neverClosed (opening : Char)
  /-- A number, which may be imaginary, runs into something else. -/
  | number (imaginary : Bool)
  /-- A whole number starts with a zero. -/
  | leadingZero
  /-- A character that has no place in a literal. -/
  | character (c : Char)
  /-- A backslash that does not end a line. -/
  | continuation
  /-- Two items of a collection follow one another without a comma. -/
  | commaMissing
  /-- A key of a mapping has no value. -/
  | valueMissing
  /-- A choice lacks its other branch. -/
  | elseMissing
  /-- A name is set inside brackets. -/
  | assignment
  /-- A literal is set inside brackets. -/
  | literalAssignment
  /-- Anything else that cannot be read. -/
  | malformed
  /-- It can be read, but is no literal. -/
  | notLiteral
  deriving DecidableEq, Repr

/-- The wording of a fault. -/
def Fault.message : Fault → String
  | .unterminated line => "unterminated string literal (detected at line " ++ toString line ++ ")"
  | .unterminatedLong line =>
    "unterminated triple-quoted string literal (detected at line " ++ toString line ++ ")"
  | .unmatched close => "unmatched '" ++ close.toString ++ "'"
  | .mismatched close opening =>
    "closing parenthesis '" ++ close.toString ++ "' does not match opening parenthesis '"
      ++ opening.toString ++ "'"
  | .neverClosed opening => "'" ++ opening.toString ++ "' was never closed"
  | .number imaginary => "invalid " ++ (if imaginary then "imaginary" else "decimal") ++ " literal"
  | .leadingZero => "leading zeros in decimal integer literals are not permitted; "
    ++ "use an 0o prefix for octal integers"
  | .character c =>
    let code := String.ofList ((Text.hexDigits 4 c.toNat).map Char.toUpper)
    if Text.isPrintable c then "invalid character '" ++ c.toString ++ "' (U+" ++ code ++ ")"
    else "invalid non-printable character U+" ++ code
  | .continuation => "unexpected character after line continuation character"
  | .commaMissing => "invalid syntax. Perhaps you forgot a comma?"
  | .valueMissing => "expression expected after dictionary key and ':'"
  | .elseMissing => "expected 'else' after 'if' expression"
  | .assignment => "invalid syntax. Maybe you meant '==' or ':=' instead of '='?"
  | .literalAssignment =>
    "cannot assign to literal here. Maybe you meant '==' instead of '='?"
  | .malformed => "invalid syntax"
  | .notLiteral => "malformed node or string on line 1"

end IndexSync.Literal
