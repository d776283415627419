import IndexSync.Cli.Pictograph
import IndexSync.Cli.Screen
import IndexSync.Cli.Style
import IndexSync.Failure
import IndexSync.Literal.Reader

/-!
# Marked-up console text

Text for the console may hold tags in square brackets, which set a style and are not shown. A tag
starts with a small letter or one of a few signs, and ends at the first closing bracket; other
brackets are plain text. Backslashes before a tag take its effect away. A closing tag must match an
open one, and tags match if they give the same style. A tag whose name starts with `@` gives no
style but a handler, with its parameters behind an equals sign.

The console has no styles here, so that showing a text means to drop its tags. A style that cannot
be made out does not matter, with one exception: a colour of which a part is missing.
-/

namespace IndexSync.Cli.Markup

/-- A piece of marked-up text. -/
inductive Piece where
  /-- Plain text. -/
  | text (cs : List Char)
  /-- A tag, with its position and the text between its brackets. -/
  | tag (position : Nat) (body : List Char)
  deriving DecidableEq, Repr

/-- A character that a tag may start with. -/
def startsTag (c : Char) : Bool :=
  (decide ('a' ≤ c) && decide (c ≤ 'z')) || c == '#' || c == '/' || c == '@'

/-- A character that stands within the brackets of a tag. -/
def inTag (c : Char) : Bool := c != '[' && c != ']'

/-- The tag at the front of a text, and what follows it. -/
def tag? : List Char → Option (List Char × List Char)
  | '[' :: c :: rest =>
    if startsTag c then
      match rest.dropWhile inTag with
      | ']' :: after => some (c :: rest.takeWhile inTag, after)
      | _ => none
    else none
  | _ => none

/-- Split off the backslashes at the front of a text. -/
def takeBackslashes (cs : List Char) : Nat × List Char :=
  ((cs.takeWhile (· == '\\')).length, cs.dropWhile (· == '\\'))

/-- The pieces that backslashes and the tag behind them stand for: every two backslashes show one,
and one that is left over turns the tag into text. -/
def taggedPieces (position backslashes : Nat) (body : List Char) : List Piece :=
  let shown := if backslashes < 2 then [] else [Piece.text (List.replicate (backslashes / 2) '\\')]
  if backslashes % 2 = 1 then shown ++ [.text ('[' :: body ++ [']'])]
  else shown ++ [.tag (position + backslashes) body]

/-- The plain text collected so far, as a piece. -/
def flush (pending : List Char) : List Piece :=
  if pending = [] then [] else [.text pending.reverse]

/-- The pieces of a text that starts at a position, with a bound on their number. Plain text is
collected in reverse. -/
def scan : Nat → Nat → List Char → List Char → List Piece
  | 0, _, pending, cs => flush (cs.reverse ++ pending)
  | _, _, pending, [] => flush pending
  | bound + 1, position, pending, c :: rest =>
    let (backslashes, behind) := takeBackslashes (c :: rest)
    match tag? behind with
    | some (body, after) =>
      flush pending ++ taggedPieces position backslashes body
        ++ scan bound (position + backslashes + body.length + 2) [] after
    | none =>
      if backslashes = 0 then scan bound (position + 1) (c :: pending) rest
      else scan bound (position + backslashes) (List.replicate backslashes '\\' ++ pending) behind

/-- The pieces of a marked-up text. -/
def pieces (cs : List Char) : List Piece := scan cs.length 0 [] cs

/-- In plain text, a backslash before an opening bracket is not shown. -/
def unescape : List Char → List Char
  | '\\' :: '[' :: rest => '[' :: unescape rest
  | c :: rest => c :: unescape rest
  | [] => []

/-- Control characters that the console cannot show. -/
def isControl (c : Char) : Bool :=
  c == '\x07' || c == '\x08' || c == '\x0b' || c == '\x0c' || c == '\r'

/-- The text of a plain piece, with the names of pictographs replaced. -/
def plainText (cs : List Char) : List Char :=
  (Pictograph.replace (unescape cs)).filter fun c => !isControl c

/-- A tag that has been opened. -/
structure Opened where
  /-- Where the text behind it starts. -/
  start : Nat
  /-- The style that it gives, in normal form. -/
  name : String
  /-- What follows its equals sign. -/
  parameters : Option (List Char)

/-- A stretch of the text and the text of its style. -/
structure Span where
  /-- Where it starts. -/
  start : Nat
  /-- Where it ends. -/
  stop : Nat
  /-- The text of its style. -/
  style : List Char

/-- The tag belongs to a handler. -/
def Opened.isHandler (t : Opened) : Bool := t.name.toList.head? == some '@'

/-- The stretch of an opened tag that ends at the given place. -/
def Opened.span (t : Opened) (stop : Nat) : Span :=
  let style := match t.parameters with
    | some parameters => t.name.toList ++ ' ' :: parameters
    | none => t.name.toList
  ⟨t.start, stop, style⟩

/-- A text in the making. -/
structure Draft where
  /-- What is shown, in pieces, the last one first. -/
  shown : List (List Char) := []
  /-- The number of characters shown. -/
  length : Nat := 0
  /-- The tags that are open, innermost first. -/
  opened : List Opened := []
  /-- The stretches that have ended. -/
  spans : List Span := []

/-- A style that cannot be made out, as a fault of the markup. -/
def styleFault {α : Type} : Except StyleFault α → Except MarkupFault α
  | .ok a => .ok a
  | .error _ => .error .colourPart

/-- Split a tag at its first equals sign. -/
def splitTag (body : List Char) : List Char × Option (List Char) :=
  let name := body.takeWhile (· != '=')
  match body.drop name.length with
  | [] => (name, none)
  | _ :: parameters => (name, some parameters)

/-- A character of the name of a handler. -/
def inHandler (c : Char) : Bool := c == '.' || Text.isWordChar c

/-- The literal in the parameters of a handler: what stands in brackets behind a name, nothing for a
name alone, and else all of it. -/
def handlerLiteral (parameters : List Char) : List Char :=
  let arguments := parameters.dropWhile inHandler
  if arguments.isEmpty then ['(', ')']
  else if arguments.head? == some '(' && 1 < arguments.length && arguments.getLast? == some ')'
      && !arguments.contains '\n' then arguments
  else parameters

/-- Check the parameters of a handler. -/
def checkHandler (t : Opened) : Except MarkupFault Unit :=
  match t.parameters with
  | none => .ok ()
  | some [] => .ok ()
  | some parameters =>
    let literal := String.ofList (handlerLiteral (Text.trimList Text.isBlank parameters))
    match Literal.fault? literal with
    | none => .ok ()
    | some fault => .error (.handler literal (String.ofList parameters) fault)

/-- Close a tag that has been taken out of the open ones. -/
def Draft.finish (d : Draft) (t : Opened) : Except MarkupFault Draft :=
  if t.isHandler then (checkHandler t).map fun _ => d
  else .ok { d with spans := t.span d.length :: d.spans }

/-- Take the innermost tag with a name out of the open ones. -/
def takeNamed? (name : String) : List Opened → Option (Opened × List Opened)
  | [] => none
  | t :: outer =>
    if t.name = name then some (t, outer)
    else (takeNamed? name outer).map fun (found, rest) => (found, t :: rest)

/-- Close a tag by its name; without a name the innermost one is closed. -/
def Draft.close (d : Draft) (position : Nat) (body : List Char) : Except MarkupFault Draft :=
  match Text.trimList Text.isBlank ((splitTag body).1.drop 1) with
  | [] =>
    match d.opened with
    | [] => .error (.nothingOpen position)
    | t :: outer => Draft.finish { d with opened := outer } t
  | name => do
    match takeNamed? (← styleFault (Style.normalize name)) d.opened with
    | some (t, rest) => Draft.finish { d with opened := rest } t
    | none => .error (.unmatched (String.ofList ('[' :: body ++ [']'])) position)

/-- Open a tag. -/
def Draft.open (d : Draft) (body : List Char) : Except MarkupFault Draft := do
  let (name, parameters) := splitTag body
  let style ← styleFault (Style.normalize name)
  return { d with opened := ⟨d.length, style, parameters⟩ :: d.opened }

/-- Add a piece to a text in the making. -/
def Draft.add (d : Draft) : Piece → Except MarkupFault Draft
  | .text cs =>
    let shown := plainText cs
    .ok { d with shown := shown :: d.shown, length := d.length + shown.length }
  | .tag position ('/' :: rest) => d.close position ('/' :: rest)
  | .tag _ body => d.open body

/-- What is shown. -/
def Draft.text (d : Draft) : List Char := d.shown.reverse.flatten

/-- The stretches of a text, where tags that are still open end with it. -/
def Draft.allSpans (d : Draft) : List Span :=
  d.opened.map (·.span d.length) ++ d.spans

/-- A stretch takes part in showing a text of one line, or if it has something to show: line breaks
are not shown, and when lines are taken apart, empty stretches get lost. -/
def Span.matters (s : Span) (text : List Char) (whole : Bool) : Bool :=
  whole || ((text.drop s.start).take (s.stop - s.start)).any (· != '\n')

/-- The style of a stretch is a colour of which a part is missing. -/
def Span.isBroken (s : Span) : Bool :=
  match Style.parse s.style with
  | .error .emptyPart => true
  | _ => false

/-- The lines that a console of some columns shows of a text. -/
def Draft.lines (width : Nat) (d : Draft) : Except MarkupFault (List (List Char)) :=
  let lines := Screen.lines width d.text
  let whole := lines.length == 1 && !d.text.contains '\t'
  if d.allSpans.any fun s => s.isBroken && s.matters d.text whole then .error .colourPart
  else .ok lines

/-- What a console of some columns shows of a marked-up text. -/
def render (width : Nat) (s : String) : Except Failure String :=
  match (pieces s.toList).foldlM Draft.add {} >>= Draft.lines width with
  | .ok lines => .ok (String.ofList (Text.joinFields '\n' lines))
  | .error fault => .error (.markup fault)

/-- A tag with its effect taken away, given the number of backslashes before it. -/
def escapeTag (backslashes : Nat) (body : List Char) : List Char :=
  List.replicate (2 * backslashes + 1) '\\' ++ '[' :: body ++ [']']

/-- Take away the effect of all tags of a text, with a bound on their number. -/
def escapeTags : Nat → List Char → List Char
  | 0, cs => cs
  | _, [] => []
  | bound + 1, c :: rest =>
    let (backslashes, behind) := takeBackslashes (c :: rest)
    match tag? behind with
    | some (body, after) => escapeTag backslashes body ++ escapeTags bound after
    | none =>
      if backslashes = 0 then c :: escapeTags bound rest
      else List.replicate backslashes '\\' ++ escapeTags bound behind

/-- A single backslash at the end would take the effect of a tag that follows. -/
def guardEnd (cs : List Char) : List Char :=
  match cs.reverse with
  | ['\\'] => cs ++ ['\\']
  | '\\' :: c :: _ => if c = '\\' then cs else cs ++ ['\\']
  | _ => cs

/-- The marked-up text that shows a given text. -/
def escape (s : String) : String :=
  String.ofList (guardEnd (escapeTags s.toList.length s.toList))

end IndexSync.Cli.Markup
