import IndexSync.Text.Fields

/-!
# File paths

A path is an anchor and a list of names. Reading a text drops empty names and `.`, and keeps `..`:
what `..` means depends on links, so it is not resolved here. A path that starts with exactly two
slashes keeps both; three or more count as one.
-/

namespace IndexSync

/-- Where the names of a path start from. -/
inductive Anchor where
  /-- The working directory. -/
  | relative
  /-- The root directory. -/
  | root
  /-- The root directory, written with two slashes. -/
  | doubleRoot
  deriving DecidableEq, Repr

/-- The written form of an anchor. -/
def Anchor.text : Anchor → String
  | .relative => ""
  | .root => "/"
  | .doubleRoot => "//"

/-- A file path. -/
structure FsPath where
  /-- Where the path starts. -/
  anchor : Anchor
  /-- The names below the anchor, outermost first. -/
  names : List String
  deriving DecidableEq, Repr

namespace FsPath

/-- The anchor that the leading slashes of a text stand for. -/
def anchorOf : List Char → Anchor
  | '/' :: '/' :: '/' :: _ => .root
  | '/' :: '/' :: _ => .doubleRoot
  | '/' :: _ => .root
  | _ => .relative

/-- A field of a path text that counts as a name. -/
def isName (field : List Char) : Bool := !(field == [] || field == ['.'])

/-- The names of a path text. -/
def namesOf (cs : List Char) : List String :=
  ((Text.fields '/' cs).filter isName).map String.ofList

/-- Read a path from its text. -/
def parse (s : String) : FsPath := ⟨anchorOf s.toList, namesOf s.toList⟩

/-- The text of a path; the empty relative path is written as a dot. -/
def text (p : FsPath) : String :=
  if p.anchor = .relative ∧ p.names = [] then "."
  else p.anchor.text ++ Text.joinText '/' p.names

/-- The path does not depend on the working directory. -/
def isAbsolute (p : FsPath) : Bool := p.anchor != .relative

/-- The path one name further down. -/
def child (p : FsPath) (name : String) : FsPath := { p with names := p.names ++ [name] }

/-- The second path, taken relative to the first unless it is absolute. -/
def join (p q : FsPath) : FsPath :=
  if q.isAbsolute then q else { p with names := p.names ++ q.names }

/-- The path without its last name. An anchor is its own parent. -/
def parent (p : FsPath) : FsPath := { p with names := p.names.dropLast }

/-- All proper prefixes of a list, longest first. -/
def properPrefixes (names : List String) : List (List String) :=
  (List.range names.length).reverse.map names.take

/-- The strict ancestors of a path, nearest first. -/
def ancestors (p : FsPath) : List FsPath :=
  (properPrefixes p.names).map fun names => { p with names }

/-- The path and its ancestors, nearest first. -/
def chain (p : FsPath) : List FsPath := p :: p.ancestors

/-- The parts by which paths are ordered: the anchor, if there is one, and the names. -/
def parts (p : FsPath) : List String :=
  match p.anchor with
  | .relative => p.names
  | a => a.text :: p.names

/-- Lexicographic order of lists of texts, each compared by code points. -/
def lessParts : List String → List String → Bool
  | _, [] => false
  | [], _ :: _ => true
  | a :: as, b :: bs => if a = b then lessParts as bs else decide (a < b)

/-- The order of paths. -/
def less (p q : FsPath) : Bool := lessParts p.parts q.parts

/-- The least of a list of paths. -/
def least? : List FsPath → Option FsPath
  | [] => none
  | p :: ps => some (ps.foldl (fun best q => if q.less best then q else best) p)

end FsPath

end IndexSync
