import IndexSync.FsPath
import IndexSync.Sha256
import IndexSync.Text.Lower
import IndexSync.Text.Utf8

/-!
# Path keys

Roots that come from the service and roots found on disk may differ in the kind of separator, in
trailing separators and, where the file system ignores it, in letter case. A path key is the form
in which such spellings coincide. It is computed from the text alone: the file system is not
consulted, so that roots of deleted projects have keys as well.

The key of a text is its list of segments after reduction: empty and `.` segments are dropped, and
`..` cancels the segment before it. The index of a project is named after the hash of its key.
-/

namespace IndexSync

/-- Whether letter case distinguishes paths. -/
inductive CaseRule where
  /-- Texts that differ in case are different paths. -/
  | sensitive
  /-- Case is folded away. -/
  | insensitive
  deriving DecidableEq, Repr

namespace CaseRule

/-- The platforms whose file systems ignore letter case. -/
def foldingPlatforms : List String := ["win32", "darwin"]

/-- A platform whose file system ignores letter case. -/
def folds (platform : String) : Bool := foldingPlatforms.contains platform

/-- The named platform, or else the current one, has a file system that ignores letter case. No
name and the empty name stand for the current platform. -/
def foldsOn (current : String) (named : Option String) : Bool :=
  folds (match named with
    | some name => if name = "" then current else name
    | none => current)

/-- The rule of a platform. -/
def ofPlatform (platform : String) : CaseRule :=
  if folds platform then .insensitive else .sensitive

/-- The rule that a host asked for, or else that of its platform. -/
def choose (platform : String) : Option Bool → CaseRule
  | some true => .sensitive
  | some false => .insensitive
  | none => ofPlatform platform

end CaseRule

namespace PathKey

/-- Both separators are written as a slash. -/
def unify (c : Char) : Char := if c = '\\' then '/' else c

/-- The text starts at a root. -/
def isRooted : List Char → Bool
  | '/' :: _ => true
  | _ => false

/-- A segment that changes nothing. -/
def isIdle (seg : List Char) : Bool := seg == [] || seg == ['.']

/-- The segment that climbs to the parent. -/
def up : List Char := ['.', '.']

/-- Take one segment into the reduced segments, which are held in reverse. A climb cancels the
segment before it, stops at a root, and is kept otherwise. -/
def push (rooted : Bool) (kept : List (List Char)) (seg : List Char) : List (List Char) :=
  if isIdle seg then kept
  else if seg = up then
    match kept with
    | [] => if rooted then [] else [up]
    -- Kept climbs stand at the front of a relative path, where nothing is left to cancel.
    | last :: before => if last = up then up :: kept else before
  else seg :: kept

/-- The segments of a path after reduction. -/
def reduce (rooted : Bool) (segs : List (List Char)) : List (List Char) :=
  (segs.foldl (push rooted) []).reverse

/-- The text of reduced segments. A relative path without segments is a dot. -/
def render (rooted : Bool) (segs : List (List Char)) : List Char :=
  if rooted then '/' :: Text.joinFields '/' segs
  else if segs = [] then ['.']
  else Text.joinFields '/' segs

/-- The reduced form of a non-empty text whose separators are slashes. -/
def reduced (cs : List Char) : List Char :=
  render (isRooted cs) (reduce (isRooted cs) (Text.fields '/' cs))

/-- Fold letter case as the rule says. -/
def fold (rule : CaseRule) (cs : List Char) : List Char :=
  match rule with
  | .sensitive => cs
  | .insensitive => Text.lowerList cs

/-- The key of a list of characters. The empty text is its own key. -/
def ofList (rule : CaseRule) (cs : List Char) : List Char :=
  if cs = [] then [] else fold rule (reduced (cs.map unify))

/-- The key of a path text. -/
def ofText (rule : CaseRule) (s : String) : String := String.ofList (ofList rule s.toList)

/-- The key of a path. -/
def ofPath (rule : CaseRule) (p : FsPath) : String := ofText rule p.text

/-- Two path texts denote the same path. There is no matching of ancestors. -/
def same (rule : CaseRule) (a b : String) : Bool := ofText rule a == ofText rule b

/-- The first sixteen hexadecimal digits of the hash of a key. -/
def hash (key : String) : String :=
  String.ofList ((Sha256.hexDigest (Text.Utf8.encode key)).take 16)

/-- The file that holds the index of the root with the given text. -/
def indexFile (rule : CaseRule) (dir : FsPath) (root : String) : FsPath :=
  dir.child (hash (ofText rule root) ++ ".db")

end PathKey

end IndexSync
