import IndexSync.Literal.Token

/-!
# Reading literals

A literal is a number, a quoted text, a constant, or a collection of literals in brackets. To tell
what is wrong with a text that is none, expressions with operators, names and calls are read as
well.
-/

namespace IndexSync.Literal

/-- What an expression is. -/
inductive Form where
  /-- A bare name. -/
  | name
  /-- A number, which may be imaginary. -/
  | number (imaginary : Bool)
  /-- Another literal that stands by itself. -/
  | constant
  /-- A collection of literals. -/
  | collection
  /-- Anything that is no literal. -/
  | other
  deriving DecidableEq, Repr

/-- The form of a literal. -/
def Form.isLiteral : Form → Bool
  | .name => false
  | .other => false
  | _ => true

/-- The form of a collection with items of the given forms. -/
def Form.collect (items : List Form) : Form :=
  if items.all Form.isLiteral then .collection else .other

/-- Why reading stopped. -/
inductive Stop where
  /-- The text ended where something has to follow. -/
  | ended
  /-- Something is wrong. -/
  | fault (f : Fault)

/-- Stop with a fault, unless the text has ended. -/
def stopAt {α : Type} (f : Fault) : List Token → Except Stop α
  | [] => .error .ended
  | _ => .error (.fault f)

/-- The words that are no names. -/
def reserved : List String :=
  ["and", "as", "assert", "async", "await", "break", "class", "continue", "def", "del", "elif",
   "else", "except", "finally", "for", "from", "global", "if", "import", "in", "is", "lambda",
   "nonlocal", "not", "or", "pass", "raise", "return", "try", "while", "with", "yield"]

/-- The words for constants. -/
def constants : List String := ["True", "False", "None"]

/-- The operators between two expressions. -/
def operators : List String :=
  ["+", "-", "*", "/", "//", "%", "@", "**", "<<", ">>", "&", "|", "^", "<", ">", "<=", ">=", "==",
   "!=", "and", "or", "in", "is"]

/-- The operator that a token is, if it stands between expressions. -/
def operator? : Token → Option String
  | .sign s => if operators.contains s then some s else none
  | .name s => if operators.contains s then some s else none
  | _ => none

/-- The form of two expressions with an operator between them: only a real and an imaginary number
make a literal. -/
def Form.join (op : String) : Form → Form → Form
  | .number false, .number true => if op = "+" ∨ op = "-" then .number true else .other
  | _, _ => .other

/-- The form of an expression behind a sign. -/
def Form.signed (op : String) : Form → Form
  | .number imaginary => if op = "+" ∨ op = "-" then .number imaginary else .other
  | _ => .other

/-- Two expressions that stand side by side are taken for items without a comma, unless the first
starts with a name and a quoted text, or with one of a few words. -/
def mayLackComma : List Token → Bool
  | .name _ :: .text :: _ => false
  | .name word :: _ => !(["_", "match", "case"].contains word)
  | _ => true

/-- The token is a sign. -/
def isSign (s : String) : List Token → Bool
  | .sign t :: _ => t == s
  | _ => false

mutual

/-- Read an expression, with a bound on the number of nested readings. -/
def expression : Nat → List Token → Except Stop (Form × List Token)
  | 0, _ => .error (.fault .malformed)
  | bound + 1, ts => do
    let (form, rest) ← chain bound ts
    match rest with
    | .name "if" :: rest => do
      let (_, rest) ← chain bound rest
      match rest with
      | .name "else" :: rest => do
        let (_, rest) ← expression bound rest
        return (.other, rest)
      | _ => stopAt .elseMissing rest
    | _ => return (form, rest)

/-- Read operands with operators between them. -/
def chain : Nat → List Token → Except Stop (Form × List Token)
  | 0, _ => .error (.fault .malformed)
  | bound + 1, ts => do
    let (form, rest) ← operand bound ts
    match rest with
    | t :: rest' =>
      match operator? t with
      | some op => do
        let (next, rest) ← chain bound rest'
        return (form.join op next, rest)
      | none => return (form, rest)
    | [] => return (form, rest)

/-- Read an operand: an atom with signs in front and calls behind. -/
def operand : Nat → List Token → Except Stop (Form × List Token)
  | 0, _ => .error (.fault .malformed)
  | bound + 1, ts =>
    match ts with
    | [] => .error .ended
    | .number imaginary :: rest => calls bound (.number imaginary) rest
    | .text :: rest => calls bound .constant (rest.dropWhile (· == .text))
    | .name word :: rest =>
      if word = "not" then do
        let (_, rest) ← operand bound rest
        return (.other, rest)
      else if ["lambda", "await", "yield", "async"].contains word then .error (.fault .notLiteral)
      else if reserved.contains word then .error (.fault .malformed)
      else calls bound (if constants.contains word then .constant else .name) rest
    | .sign s :: rest =>
      if s = "+" ∨ s = "-" ∨ s = "~" then do
        let (form, rest) ← operand bound rest
        return (form.signed s, rest)
      else if s = "..." then calls bound .constant rest
      else if s = "(" then do
        let (forms, rest) ← items bound ")" true rest
        -- An expression in round brackets alone stands for itself.
        let form := match forms with
          | [(form, false)] => if form = .name then .other else form
          | _ => .collect (forms.map Prod.fst)
        calls bound form rest
      else if s = "\x7b" then do
        let (forms, rest) ← items bound "\x7d" true rest
        calls bound (.collect (forms.map Prod.fst)) rest
      else .error (.fault .malformed)

/-- Read what may follow an atom: names after points, and calls. -/
def calls : Nat → Form → List Token → Except Stop (Form × List Token)
  | 0, _, _ => .error (.fault .malformed)
  | bound + 1, form, ts =>
    match ts with
    | .sign "." :: .name word :: rest =>
      if reserved.contains word then .error (.fault .malformed) else calls bound .other rest
    | .sign "." :: rest => stopAt .malformed rest
    | .sign "(" :: rest => do
      let (_, rest) ← items bound ")" false rest
      calls bound .other rest
    | _ => .ok (form, ts)

/-- Read the items of a collection up to its closing bracket, each with whether a comma follows it.
In a call, names may be given to the items. -/
def items : Nat → String → Bool → List Token → Except Stop (List (Form × Bool) × List Token)
  | 0, _, _, _ => .error (.fault .malformed)
  | bound + 1, close, collection, ts =>
    if isSign close ts then .ok ([], ts.drop 1)
    else do
      let (form, rest) ← item bound close collection ts
      if isSign "," rest then do
        let (forms, rest) ← items bound close collection (rest.drop 1)
        return ((form, true) :: forms, rest)
      else if isSign close rest then return ([(form, false)], rest.drop 1)
      else juxtaposed bound ts rest

/-- Read an item of a collection. -/
def item : Nat → String → Bool → List Token → Except Stop (Form × List Token)
  | 0, _, _, _ => .error (.fault .malformed)
  | bound + 1, close, collection, ts => do
    let (form, rest) ← expression bound ts
    if isSign "=" rest then do
      let (_, after) ← chain bound (rest.drop 1)
      match form, collection with
      | .name, false => return (.other, after)
      | .name, true => stopAt .assignment after
      | .number _, _ => stopAt .literalAssignment after
      | .constant, _ => stopAt .literalAssignment after
      | _, _ => stopAt .malformed after
    else if isSign ":" rest && close == "\x7d" then
      match rest.drop 1 with
      | .sign s :: after =>
        if s = "\x7d" ∨ s = "," then .error (.fault .valueMissing)
        else do
          let (value, after) ← expression bound (.sign s :: after)
          return (.collect [form, value], after)
      | after => do
        let (value, after) ← expression bound after
        return (.collect [form, value], after)
    else return (form, rest)

/-- Something follows an item without a comma. -/
def juxtaposed : Nat → List Token → List Token → Except Stop (List (Form × Bool) × List Token)
  | 0, _, _ => .error (.fault .malformed)
  | bound + 1, start, rest =>
    match expression bound rest with
    | .ok (_, after) => stopAt (if mayLackComma start then .commaMissing else .malformed) after
    | .error .ended => .error .ended
    | .error (.fault .notLiteral) => .error (.fault .notLiteral)
    | .error (.fault _) => .error (.fault .malformed)

end

/-- Read expressions with commas between them, up to the end of the text. -/
def whole : Nat → Nat → List Token → Except Stop (List Form)
  | 0, _, _ => .error (.fault .malformed)
  | count + 1, bound, ts => do
    let (form, rest) ← expression bound ts
    match rest with
    | [] => return [form]
    | .sign "," :: [] => return [form]
    | .sign "," :: more => do return form :: (← whole count bound more)
    | more =>
      match expression bound more with
      | .error .ended => throw .ended
      | _ => throw (.fault .malformed)

/-- Why a text is no literal; `none` if it is one. -/
def fault? (s : String) : Option Fault :=
  match tokens s.toList with
  | .error f => some f
  | .ok ts =>
    let bound := 8 * ts.tokens.length + 8
    match whole bound bound ts.tokens with
    | .ok forms => if forms.all Form.isLiteral then none else some .notLiteral
    | .error (.fault f) => some f
    | .error .ended =>
      -- Where the text ended too early, an open bracket is blamed.
      match ts.opened with
      | opening :: _ => some (.neverClosed opening)
      | [] => some .malformed

end IndexSync.Literal
