import IndexSync.Host.Basic
import IndexSync.PathKey

/-!
# Resolving links

The real path of a path: absolute, and without links as far as they can be followed. Names that do
not exist, or that cannot be looked at, are kept as they are. Every link is followed once; a link
that is met again while it is being followed closes a circle, and the rest of the path is then kept
unresolved. How many links may lie inside one another is up to the stack.
-/

namespace IndexSync.Host

/-- A path whose links have been followed so far. -/
structure Trail where
  /-- The path starts at the root. -/
  anchored : Bool
  /-- The names so far. -/
  names : List String
  deriving DecidableEq

namespace Trail

/-- The trail as a path. -/
def path (t : Trail) : FsPath := ⟨if t.anchored then .root else .relative, t.names⟩

/-- Go to a name. -/
def down (t : Trail) (name : String) : Trail := { t with names := t.names ++ [name] }

/-- Go to the parent. A relative trail may climb above its start. -/
def up (t : Trail) : Trail :=
  match t.names.getLast? with
  | none => if t.anchored then t else { t with names := [".."] }
  | some last => if last = ".." then t.down ".." else { t with names := t.names.dropLast }

/-- Add the rest of a path without following links in it. -/
def add (t : Trail) : List String → Trail
  | "" :: next :: rest => ⟨true, next :: rest⟩
  | rest => { t with names := t.names ++ rest }

end Trail

/-- The links met so far, with where they lead to once that is known. -/
abbrev Links := List (FsPath × Option Trail)

/-- The state after following a path: the trail, whether all links could be followed, and the links
met so far. -/
structure Followed where
  /-- Where the path leads to. -/
  trail : Trail
  /-- No circle was met. -/
  complete : Bool
  /-- The links met so far. -/
  links : Links

/-- Whether a trail ends at a link. What cannot be looked at is no link. -/
def isLink (h : Host) (p : FsPath) : Except Failure Bool :=
  match h.lstat p with
  | .ok (.link _) => .ok true
  | .ok _ => .ok false
  | .error .nullByte => .error .nullByte
  | .error _ => .ok false

/-- Follow the segments of a path; the targets of links are followed by `expand`. -/
def followWith (h : Host) (expand : Links → Trail → String → Except Failure Followed) :
    Links → Trail → List String → Except Failure Followed
  | links, trail, [] => .ok ⟨trail, true, links⟩
  | links, trail, name :: rest =>
    if name = "" ∨ name = "." then followWith h expand links trail rest
    else if name = ".." then followWith h expand links trail.up rest
    else do
      let next := trail.down name
      if ← h.isLink next.path then
        match links.lookup next.path with
        | some (some known) => followWith h expand links known rest
        -- This very link is being followed: a circle.
        | some none => return ⟨next.add rest, false, links⟩
        | none =>
          let target ← h.readlink next.path
          let sub ← expand ((next.path, none) :: links) trail target
          if sub.complete then
            followWith h expand ((next.path, some sub.trail) :: sub.links) sub.trail rest
          else return ⟨sub.trail.add rest, false, sub.links⟩
      else followWith h expand links next rest

/-- More than the number of links that can stand inside one another. Every link that is being
followed has a path of its own, whose text has fewer than 4096 = 64 * 64 characters. -/
def maxNested : Nat := Nat.pow (Nat.pow 0x110001 64) 64

/-- Follow a path text from a trail, with fewer than `depth` links inside one another. -/
def follow (h : Host) : Nat → Links → Trail → String → Except Failure Followed
  | 0, _, _, _ => .error .exhausted
  | depth + 1, links, trail, text =>
    let start := if PathKey.isRooted text.toList then ⟨true, []⟩ else trail
    followWith h (fun links trail text => follow h depth links trail text) links start
      (Text.splitText '/' text)

/-- A path with its `.` and `..` segments taken out of the text, from the working directory if it
is relative. -/
def absolute (h : Host) (t : Trail) : Except Failure FsPath :=
  let tail := Text.joinText '/' t.names
  match t.anchored, h.cwd with
  | true, _ => .ok (clean ("/" ++ tail))
  | false, some dir => .ok (clean (closed dir ++ tail))
  | false, none => .error (.system Errno.noEntry none)
where
  /-- The path of a text after reducing its segments. -/
  clean (text : String) : FsPath :=
    let cs := text.toList
    let segs := PathKey.reduce (PathKey.isRooted cs) (Text.fields '/' cs)
    ⟨FsPath.anchorOf cs, segs.map String.ofList⟩

/-- A circle of links is reported as such, and not as a failed call. -/
def asLoop : Failure → Failure
  | .system errno (some file) =>
    if errno = Errno.linkLoop then .linkLoop file else .system errno (some file)
  | e => e

/-- The real path of a path, with fewer than `depth` links inside one another. -/
def resolveWithin (h : Host) (depth : Nat) (p : FsPath) : Except Failure FsPath := do
  let followed ← (h.follow depth [] ⟨false, []⟩ p.text).mapError asLoop
  let real ← h.absolute followed.trail
  -- A circle that the walk kept as plain names shows up when the outcome is looked at.
  match h.stat real with
  | .error .nullByte => throw .nullByte
  | .error (.system errno file) =>
    if errno = Errno.linkLoop then throw (asLoop (.system errno file)) else return real
  | _ => return real

/-- The real path of a path. -/
def resolve (h : Host) (p : FsPath) : Except Failure FsPath := h.resolveWithin maxNested p

end IndexSync.Host
