import IndexSync.Literal.Fault
import IndexSync.Text.Word

/-!
# Tokens of literals

A literal is made of numbers, quoted texts, names and signs, with blanks between them. Brackets are
matched here: a closing bracket has to close the last open one.
-/

namespace IndexSync.Literal

/-- A part of a literal. -/
inductive Token where
  /-- A number, which may be imaginary. -/
  | number (imaginary : Bool)
  /-- A quoted text. -/
  | text
  /-- A name. -/
  | name (word : String)
  /-- A sign, brackets included. -/
  | sign (s : String)
  deriving DecidableEq, Repr

/-- The signs of several characters, longest first. -/
def longSigns : List String :=
  ["...", "**=", "//=", ">>=", "<<=", "**", "//", "<<", ">>", "<=", ">=", "==", "!=", "<>", "->",
   ":=", "+=", "-=", "*=", "/=", "%=", "&=", "|=", "^=", "@="]

/-- The sign at the front of a text. -/
def signAt (cs : List Char) : String :=
  (longSigns.find? fun s => s.toList.isPrefixOf cs).getD (String.ofList (cs.take 1))

/-- The digits at the front of a text, where single underscores may stand between them; the result
is what follows. -/
def skipDigits : List Char → List Char
  | '_' :: c :: rest => if c.isDigit then skipDigits rest else '_' :: c :: rest
  | c :: rest => if c.isDigit then skipDigits rest else c :: rest
  | [] => []

/-- What follows a power of ten at the front of a text; without digits there is no power. -/
def skipPower : List Char → List Char
  | e :: '+' :: d :: rest => if isPower e d then skipDigits rest else e :: '+' :: d :: rest
  | e :: '-' :: d :: rest => if isPower e d then skipDigits rest else e :: '-' :: d :: rest
  | e :: d :: rest => if isPower e d then skipDigits rest else e :: d :: rest
  | cs => cs
where
  /-- A letter for a power and its first digit. -/
  isPower (e d : Char) : Bool := (e == 'e' || e == 'E') && d.isDigit

/-- What follows the fraction at the front of a text. -/
def skipFraction : List Char → List Char
  | '.' :: c :: rest => if c.isDigit then skipDigits rest else c :: rest
  | '.' :: [] => []
  | cs => cs

/-- The words that may follow a number directly. -/
def wordsAfterNumber : List String := ["and", "else", "for", "if", "in", "is", "or", "not"]

/-- A text runs into a number in front of it. -/
def runsIntoNumber (cs : List Char) : Bool :=
  (cs.take 1).any (fun c => c.toNat < 0x80 && Text.isWordChar c)
    && !wordsAfterNumber.any fun w => w.toList.isPrefixOf cs

/-- A number at the front of a text: whether it is imaginary, and what follows. -/
def numberAt (cs : List Char) : Except Fault (Bool × List Char) :=
  let afterWhole := skipDigits cs
  let afterFraction := skipFraction afterWhole
  let afterPower := skipPower afterFraction
  let (imaginary, rest) := match afterPower with
    | 'j' :: rest => (true, rest)
    | 'J' :: rest => (true, rest)
    | rest => (false, rest)
  let whole := cs.take (cs.length - afterWhole.length)
  let isWhole := !imaginary && afterPower.length == afterWhole.length
  if isWhole && whole.head? == some '0' && whole.any fun c => c != '0' && c != '_' then
    .error .leadingZero
  else if runsIntoNumber rest then .error (.number imaginary)
  else .ok (imaginary, rest)

/-- What follows a text in simple quotes; `none` if it does not end on its line. -/
def afterQuoted? (q : Char) : List Char → Option (List Char)
  | [] => none
  | '\\' :: _ :: rest => afterQuoted? q rest
  | c :: rest => if c = q then some rest else if c = '\n' then none else afterQuoted? q rest

/-- What follows a text in triple quotes; `none` if it does not end. -/
def afterTriple? (q : Char) : List Char → Option (List Char)
  | [] => none
  | '\\' :: _ :: rest => afterTriple? q rest
  | c :: rest =>
    if [q, q, q].isPrefixOf (c :: rest) then some (rest.drop 2) else afterTriple? q rest

/-- What follows a quoted text, whose opening quote has been read. -/
def quotedAt (q : Char) (line : Nat) (cs : List Char) : Except Fault (List Char) :=
  match cs with
  | a :: b :: rest =>
    if a = q ∧ b = q then
      match afterTriple? q rest with
      | some after => .ok after
      | none => .error (.unterminatedLong (line + rest.count '\n'))
    else simple
  | _ => simple
where
  /-- What follows a text in simple quotes. -/
  simple : Except Fault (List Char) :=
    match afterQuoted? q cs with
    | some after => .ok after
    | none => .error (.unterminated line)

/-- The bracket that a closing bracket closes. -/
def openingOf : Char → Char
  | ')' => '('
  | '}' => '\x7b'
  | _ => '['

/-- Close a bracket, given the open ones, innermost first. -/
def closeBracket (close : Char) : List Char → Except Fault (List Char)
  | [] => .error (.unmatched close)
  | opening :: outer =>
    if opening = openingOf close then .ok outer else .error (.mismatched close opening)

/-- The tokens of a literal and the brackets left open, innermost first. -/
structure Tokens where
  /-- The tokens. -/
  tokens : List Token
  /-- The brackets left open. -/
  opened : List Char

/-- A token in front of others. -/
def Tokens.cons (t : Token) (ts : Tokens) : Tokens := { ts with tokens := t :: ts.tokens }

/-- A character that begins a name. -/
def startsName (c : Char) : Bool := Text.isWordChar c && !c.isDigit

/-- The letters that may stand directly in front of a quoted text. -/
def quoteMarks : List String := ["b", "r", "u", "f", "br", "rb", "fr", "rf"]

/-- A quoted text follows a mark for it. -/
def marksQuote (word : List Char) (after : List Char) : Bool :=
  quoteMarks.contains (String.ofList (word.map Char.toLower))
    && (after.take 1).any fun c => c == '\'' || c == '"'

/-- A character without a meaning outside of quoted texts. -/
def isForeign (c : Char) : Bool := 0x80 ≤ c.toNat && !Text.isWordChar c

/-- The tokens of a text, with a bound on their number, the line of the text, and the brackets open
in front of it. -/
def tokensFrom : Nat → Nat → List Char → List Char → Except Fault Tokens
  | 0, _, opened, _ => .ok ⟨[], opened⟩
  | _, _, opened, [] => .ok ⟨[], opened⟩
  | bound + 1, line, opened, c :: rest =>
    if c = ' ' ∨ c = '\t' ∨ c = '\x0c' then tokensFrom bound line opened rest
    else if c = '\n' then
      -- A line break inside of brackets is a blank.
      if opened = [] then (tokensFrom bound (line + 1) opened rest).map (.cons (.sign "\n"))
      else tokensFrom bound (line + 1) opened rest
    else if c = '#' then tokensFrom bound line opened (rest.dropWhile (· != '\n'))
    else if c = '\'' ∨ c = '"' then do
      let after ← quotedAt c line rest
      let skipped := rest.take (rest.length - after.length)
      (tokensFrom bound (line + skipped.count '\n') opened after).map (.cons .text)
    else if c.isDigit ∨ c = '.' ∧ (rest.take 1).any Char.isDigit then do
      let (imaginary, after) ← numberAt (c :: rest)
      (tokensFrom bound line opened after).map (.cons (.number imaginary))
    else if startsName c then
      let word := c :: rest.takeWhile Text.isWordChar
      let after := rest.dropWhile Text.isWordChar
      let found := tokensFrom bound line opened after
      if marksQuote word after then found
      else found.map (.cons (.name (String.ofList word)))
    else if isForeign c then .error (.character c)
    else if c = '\\' then .error .continuation
    else if c = '(' ∨ c = '[' ∨ c = '\x7b' then
      (tokensFrom bound line (c :: opened) rest).map (.cons (.sign c.toString))
    else if c = ')' ∨ c = ']' ∨ c = '\x7d' then do
      let outer ← closeBracket c opened
      (tokensFrom bound line outer rest).map (.cons (.sign c.toString))
    else
      let s := signAt (c :: rest)
      (tokensFrom bound line opened ((c :: rest).drop s.length)).map (.cons (.sign s))

/-- The tokens of a text. -/
def tokens (cs : List Char) : Except Fault Tokens := tokensFrom cs.length 1 [] cs

end IndexSync.Literal
