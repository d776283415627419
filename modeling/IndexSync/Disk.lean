import IndexSync.Errno
import IndexSync.FsPath
import IndexSync.Text.Utf8

/-!
# Disks

A disk maps places to nodes. A place is the list of names from the root, without `.`, `..` or
links. Walking a path from a place follows links, at most forty of them, and ends at a node, at a
name that its directory does not have, or with an error number. The steps of a walk are the parts
of a path text between slashes: an empty step and `.` stay where they are, in a directory.

Pipes and devices are left out, and so are names that are no UTF-8. A socket is a file without
bytes here for all calls on files; systems take it for no regular file and do not open it.
-/

namespace IndexSync

/-- The bytes of a file. -/
inductive Content where
  /-- Given bytes. -/
  | bytes (data : List UInt8)
  /-- A number of zero bytes. -/
  | zeros (size : Nat)
  deriving DecidableEq, Repr

namespace Content

/-- The number of bytes. -/
def size : Content → Nat
  | .bytes data => data.length
  | .zeros n => n

/-- The bytes. -/
def data : Content → List UInt8
  | .bytes data => data
  | .zeros n => List.replicate n 0

end Content

/-- What answers at a socket. -/
inductive Listener where
  /-- Connections are accepted. -/
  | live
  /-- Nobody listens any more. -/
  | stale
  /-- Connections are not accepted in time. -/
  | slow
  /-- The socket vanishes when it is connected to. -/
  | missing
  deriving DecidableEq, Repr

/-- What is at a place of a disk. -/
inductive Node where
  /-- A regular file. -/
  | file (content : Content) (mode : Nat)
  /-- A directory. -/
  | dir (mode : Nat)
  /-- A symbolic link. -/
  | link (target : String)
  /-- A socket, which file calls see as an empty file. -/
  | socket (listener : Listener) (mode : Nat)
  deriving DecidableEq, Repr

namespace Node

/-- The permissions of a new directory. -/
def dirMode : Nat := 0o755

/-- The permissions of a new file. -/
def fileMode : Nat := 0o644

/-- The node is a directory. -/
def isDir : Node → Bool
  | .dir _ => true
  | _ => false

/-- The node is a regular file. -/
def isFile : Node → Bool
  | .file _ _ => true
  | .socket _ _ => true
  | _ => false

/-- The size of a regular file. -/
def size? : Node → Option Nat
  | .file content _ => some content.size
  | .socket _ _ => some 0
  | _ => none

/-- The permissions of a node; those of a link are never restricted. -/
def mode : Node → Nat
  | .file _ m => m
  | .dir m => m
  | .link _ => 0o777
  | .socket _ m => m

/-- The node with other permissions. -/
def setMode (m : Nat) : Node → Node
  | .file content _ => .file content m
  | .dir _ => .dir m
  | .link target => .link target
  | .socket listener _ => .socket listener m

end Node

/-- The names from the root to a node, outermost first. -/
abbrev Place := List String

/-- A disk: its nodes by place, in the order in which they were made. -/
structure Disk where
  /-- The nodes. -/
  nodes : List (Place × Node)

namespace Disk

/-- The disk with nothing but the root directory. -/
def empty : Disk := ⟨[]⟩

/-- The node at a place. The root is always a directory. -/
def get? (d : Disk) (p : Place) : Option Node :=
  match d.nodes.lookup p with
  | some n => some n
  | none => if p = [] then some (.dir Node.dirMode) else none

/-- Put a node at a place. -/
def set (d : Disk) (p : Place) (n : Node) : Disk :=
  if (d.nodes.lookup p).isSome then
    ⟨d.nodes.map fun (q, m) => if q = p then (q, n) else (q, m)⟩
  else ⟨d.nodes ++ [(p, n)]⟩

/-- Take the node at a place away, with all that is below it. -/
def removeTree (d : Disk) (p : Place) : Disk :=
  ⟨d.nodes.filter fun (q, _) => !p.isPrefixOf q⟩

/-- The name of a place directly below a directory. -/
def childName? : Place → Place → Option String
  | [], [name] => some name
  | a :: as, b :: bs => if a = b then childName? as bs else none
  | _, _ => none

/-- The entries of a directory, in the order in which they were made. -/
def entries (d : Disk) (p : Place) : List (String × Node) :=
  d.nodes.filterMap fun (q, n) => (childName? p q).map (·, n)

/-- The longest name of a directory entry, in bytes. -/
def maxNameBytes : Nat := 255

/-- The most links that a walk follows. -/
def maxLinks : Nat := 40

/-- Where a walk ended. -/
inductive Found where
  /-- At a node. -/
  | node (place : Place) (n : Node)
  /-- In a directory without an entry of this name. -/
  | absent (dir : Place) (name : String)

/-- What a walk is made for, which shows at the last step. -/
inductive Purpose where
  /-- To look at the node itself, be it a link. -/
  | inspect
  /-- To use what is there, behind all links. -/
  | use
  /-- To use a file that may have to be made. -/
  | create
  deriving DecidableEq, Repr

/-- A step that stays where it is. -/
def isStay (step : String) : Bool := step == "" || step == "."

/-- The place where a link's target starts and the steps from there. -/
def retarget (dir : Place) (target : String) (rest : List String) : Place × List String :=
  (if (FsPath.parse target).isAbsolute then [] else dir, Text.splitText '/' target ++ rest)

/-- Walk along steps from a place whose node is `here`. Links inside the path are handed to
`onLink`, as is one at its end unless that is to be inspected. -/
def walkWith (d : Disk) (purpose : Purpose)
    (onLink : Place → List String → Except Errno Found) (place : Place) (here : Node) :
    List String → Except Errno Found
  | [] => .ok (.node place here)
  | step :: rest =>
    if !here.isDir then .error Errno.notDirectory
    else if isStay step then walkWith d purpose onLink place here rest
    else if step = ".." then
      -- The parent of the root is the root.
      let up := place.dropLast
      walkWith d purpose onLink up ((d.get? up).getD (.dir Node.dirMode)) rest
    -- A name with a slash behind it is meant as a directory, and no file can be made there.
    else if purpose = .create ∧ rest ≠ [] ∧ rest.all (· == "") then .error Errno.isDirectory
    -- The length of a name is checked before the name is looked up.
    else if maxNameBytes < (Text.Utf8.encode step).length then .error Errno.nameTooLong
    else
      match d.get? (place ++ [step]) with
      | none => if rest.all (· == "") then .ok (.absent place step) else .error Errno.noEntry
      | some (.link target) =>
        if rest = [] ∧ purpose = .inspect then .ok (.node (place ++ [step]) (.link target))
        else
          let (start, steps) := retarget place target rest
          onLink start steps
      | some n => walkWith d purpose onLink (place ++ [step]) n rest

/-- Walk along steps from a directory, following at most `links` links. -/
def walk (d : Disk) (purpose : Purpose) (links : Nat) (place : Place) (steps : List String) :
    Except Errno Found :=
  match d.get? place with
  | none => .error Errno.noEntry
  | some here =>
    match links with
    | 0 => walkWith d purpose (fun _ _ => .error Errno.linkLoop) place here steps
    | links + 1 => walkWith d purpose (fun p ns => walk d purpose links p ns) place here steps

/-- The node that a list of steps from the root leads to. -/
def lookup (d : Disk) (purpose : Purpose) (steps : List String) : Except Errno Found :=
  d.walk purpose maxLinks [] steps

/-- Make the missing directories on the way to a place. -/
def makeParents (d : Disk) (p : Place) : Disk :=
  (FsPath.properPrefixes p).reverse.foldl
    (fun d q => if (d.get? q).isNone then d.set q (.dir Node.dirMode) else d) d

/-- Put a node at a place in place of whatever was there, making missing directories. -/
def put (d : Disk) (p : Place) (n : Node) : Disk :=
  let d := match d.get? p with
    | some old => if old.isDir && n.isDir then d else d.removeTree p
    | none => d
  (d.makeParents p).set p n

end Disk

end IndexSync
