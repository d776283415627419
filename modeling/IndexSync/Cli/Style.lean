import IndexSync.Cli.Colour

/-!
# Text styles

A style is given by words: names of attributes, a colour, a colour for the background behind `on`,
an attribute to switch off behind `not`, and the address behind `link`. Of words that contradict one
another the last one counts. Two texts that give the same style have the same normal form.
-/

namespace IndexSync.Cli

/-- An attribute that a style switches on or off. -/
inductive Attribute where
  /-- Heavy letters. -/
  | bold
  /-- Faint letters. -/
  | dim
  /-- Slanted letters. -/
  | italic
  /-- A line below. -/
  | underline
  /-- Blinking. -/
  | blink
  /-- Fast blinking. -/
  | blink2
  /-- Colours exchanged. -/
  | reverse
  /-- Nothing to be seen. -/
  | conceal
  /-- A line through. -/
  | strike
  /-- Two lines below. -/
  | underline2
  /-- A frame around. -/
  | frame
  /-- A circle around. -/
  | encircle
  /-- A line above. -/
  | overline
  deriving DecidableEq, Repr

namespace Attribute

/-- All attributes, in the order of a normal form. -/
def all : List Attribute :=
  [.bold, .dim, .italic, .underline, .blink, .blink2, .reverse, .conceal, .strike, .underline2,
   .frame, .encircle, .overline]

/-- The name of an attribute. -/
def name : Attribute → String
  | .bold => "bold"
  | .dim => "dim"
  | .italic => "italic"
  | .underline => "underline"
  | .blink => "blink"
  | .blink2 => "blink2"
  | .reverse => "reverse"
  | .conceal => "conceal"
  | .strike => "strike"
  | .underline2 => "underline2"
  | .frame => "frame"
  | .encircle => "encircle"
  | .overline => "overline"

/-- The short names of attributes. -/
def short? : Attribute → Option String
  | .bold => some "b"
  | .dim => some "d"
  | .italic => some "i"
  | .underline => some "u"
  | .reverse => some "r"
  | .conceal => some "c"
  | .strike => some "s"
  | .underline2 => some "uu"
  | .overline => some "o"
  | _ => none

/-- The attribute with a name or a short name. -/
def ofName? (word : String) : Option Attribute :=
  all.find? fun a => a.name == word || a.short? == some word

end Attribute

/-- A text style. -/
structure Style where
  /-- The attributes that are switched on or off, with the last word on each in front. -/
  attributes : List (Attribute × Bool) := []
  /-- The colour. -/
  foreground : Option String := none
  /-- The colour of the background. -/
  background : Option String := none
  /-- The address of a link. -/
  link : Option String := none
  deriving DecidableEq, Repr

namespace Style

/-- Switch an attribute on or off. -/
def switch (s : Style) (a : Attribute) (on : Bool) : Style :=
  { s with attributes := (a, on) :: s.attributes }

/-- Read the words of a style after those that made the given style. -/
def ofWords (s : Style) : List String → Except StyleFault Style
  | [] => .ok s
  | [word] =>
    match Attribute.ofName? (Text.lower word) with
    | some a => .ok (s.switch a true)
    | none => do return { s with foreground := some (← colour word) }
  | word :: next :: rest =>
    let name := Text.lower word
    if name = "on" then do ofWords { s with background := some (← colour next) } rest
    else if name = "link" then ofWords { s with link := some next } rest
    else if name = "not" then
      -- Only here letter case matters.
      match Attribute.ofName? next with
      | some a => ofWords (s.switch a false) rest
      | none => .error .unknown
    else match Attribute.ofName? name with
      | some a => ofWords (s.switch a true) (next :: rest)
      | none => do ofWords { s with foreground := some (← colour word) } (next :: rest)

/-- Read a style. -/
def parse (cs : List Char) : Except StyleFault Style :=
  match (Text.words cs).map String.ofList with
  | ["none"] => .ok {}
  | words => ofWords {} words

/-- The words for the attributes of a style. -/
def attributeWords (s : Style) : List String :=
  Attribute.all.flatMap fun a =>
    match s.attributes.lookup a with
    | some true => [a.name]
    | some false => ["not", a.name]
    | none => []

/-- The words of a style in normal form. -/
def words (s : Style) : List String :=
  s.attributeWords ++ s.foreground.toList ++ (s.background.toList.flatMap fun c => ["on", c])
    ++ s.link.toList.flatMap fun address => ["link", address]

/-- The text of a style in normal form. -/
def text (s : Style) : String :=
  if s.words = [] then "none" else " ".intercalate s.words

/-- The normal form of the text of a style. A text that gives no style is only put into small
letters. -/
def normalize (cs : List Char) : Except StyleFault String :=
  match parse cs with
  | .ok s => .ok s.text
  | .error .unknown => .ok (Text.lower (Text.strip (String.ofList cs)))
  | .error .emptyPart => .error .emptyPart

end Style

end IndexSync.Cli
