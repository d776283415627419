import IndexSync.Disk
import IndexSync.Event
import IndexSync.Host.Command
import IndexSync.Host.Processes

/-!
# Hosts

The machine a program runs on, as far as it can see it: the disk, the working directory, the
environment, the user, the platform, the processes it started and the version control program.
Calls on files may be scripted to fail, by the kind of the call and the exact text of the path.

Some of what systems do is left out. There is no database of users, so that a home directory is
known from the environment only, and that of another user not at all. Paths are texts: halves of
surrogate pairs, and bytes that are no part of a character, are in the start of a search only, see
`Project.findAt`. How deep calls can be nested matters where a search is given a `Stack`, and else
only to documents.
-/

namespace IndexSync

/-- The kinds of calls on files. -/
inductive Call where
  /-- Look at what a path leads to. -/
  | stat
  /-- Look at what a path leads to without following a link at its end. -/
  | lstat
  /-- List a directory. -/
  | scandir
  /-- Read the target of a link. -/
  | readlink
  /-- Make a directory. -/
  | mkdir
  /-- Change permissions. -/
  | chmod
  /-- Remove a file. -/
  | unlink
  /-- Open a file. -/
  | open
  deriving DecidableEq, Repr

/-- A call that fails. -/
structure Fault where
  /-- The kind of the call. -/
  call : Call
  /-- The text of the path it is made on. -/
  path : String
  /-- The error it fails with. -/
  errno : Errno
  deriving DecidableEq, Repr

/-- The variables of an environment, by name. -/
abbrev Env := List (String × String)

namespace Env

/-- The value of a variable. -/
def get? (env : Env) (name : String) : Option String := env.lookup name

/-- Set a variable. -/
def set (env : Env) (name value : String) : Env :=
  match env with
  | [] => [(name, value)]
  | (n, v) :: rest => if n = name then (n, value) :: rest else (n, v) :: set rest name value

/-- Setting a variable changes that variable and no other. -/
theorem get?_set (env : Env) (name other value : String) :
    (env.set name value).get? other = if other = name then some value else env.get? other := by
  unfold get?
  induction env with
  | nil => grind [set]
  | cons entry rest ih => grind [set]

end Env

/-- The machine a program runs on. -/
structure Host where
  /-- Its disk. -/
  disk : Disk
  /-- Calls that are bound to fail. -/
  faults : List Fault
  /-- The working directory; `none` if it was deleted. -/
  cwd : Option String
  /-- The environment. -/
  env : Env
  /-- The number of the user. -/
  uid : Nat
  /-- The name of the platform. -/
  platform : String
  /-- The number of the running process. -/
  pid : Nat
  /-- The processes started so far, and how further ones fare. -/
  processes : Processes := {}
  /-- How the version control program ends when it is run. -/
  git : CommandOutcome := .printed ""
  /-- The columns of its console. -/
  columns : Nat := 80
  /-- A walk through nested directories looks where a link leads before it passes over the link. Not
  all versions of the library for paths do that. -/
  probesLinks : Bool := true

namespace Host

/-- The error that a call is scripted to fail with. -/
def faultOf (h : Host) (call : Call) (path : String) : Option Errno :=
  (h.faults.find? fun f => decide (f.call = call ∧ f.path = path)).map Fault.errno

/-- The shortest path text, in bytes, that is too long for a call. -/
def maxPathBytes : Nat := 4096

/-- The text of a directory, ready to have names put behind it. -/
def closed (dir : String) : String :=
  if dir.toList.getLast?.getD '/' = '/' then dir else dir ++ "/"

/-- The text that a call gets for a path, which starts at the root; `none` if the working directory
is needed and was deleted. -/
def callText? (h : Host) (p : FsPath) : Option String :=
  if p.isAbsolute then some p.text else h.cwd.map fun dir => closed dir ++ p.text

/-- Where a path leads to. -/
def find (h : Host) (purpose : Disk.Purpose) (p : FsPath) : Except Errno Disk.Found :=
  match h.callText? p with
  | none => .error Errno.noEntry
  | some text =>
    if maxPathBytes ≤ (Text.Utf8.encode text).length then .error Errno.nameTooLong
    else h.disk.lookup purpose (Text.splitText '/' text)

/-- Fail a call on a path. -/
def deny {α : Type} (errno : Errno) (p : FsPath) : Except Failure α :=
  .error (.system errno (some p.text))

/-- Make a call on a path, unless the path holds a null character or the call is bound to fail. -/
def guarded {α : Type} (h : Host) (call : Call) (p : FsPath) (act : Except Errno α) :
    Except Failure α :=
  if p.text.toList.contains '\x00' then .error .nullByte
  else match h.faultOf call p.text with
    | some errno => deny errno p
    | none =>
      match act with
      | .ok a => .ok a
      | .error errno => deny errno p

/-- The node that a walk ended at; nothing at the end is an error. -/
def present : Disk.Found → Except Errno (Place × Node)
  | .node place n => .ok (place, n)
  | .absent _ _ => .error Errno.noEntry

/-- The node a path leads to, with its place. -/
def locate (h : Host) (purpose : Disk.Purpose) (p : FsPath) : Except Errno (Place × Node) :=
  (h.find purpose p).bind present

/-- Look at what a path leads to. -/
def stat (h : Host) (p : FsPath) : Except Failure Node :=
  h.guarded .stat p ((h.locate .use p).map Prod.snd)

/-- Look at what a path leads to without following a link at its end. -/
def lstat (h : Host) (p : FsPath) : Except Failure Node :=
  h.guarded .lstat p ((h.locate .inspect p).map Prod.snd)

/-- The entries of a directory. -/
def scandir (h : Host) (p : FsPath) : Except Failure (List (String × Node)) :=
  h.guarded .scandir p do
    let (place, n) ← h.locate .use p
    if n.isDir then return h.disk.entries place else throw Errno.notDirectory

/-- The target of a link. -/
def readlink (h : Host) (p : FsPath) : Except Failure String :=
  h.guarded .readlink p do
    match ← h.locate .inspect p with
    | (_, .link target) => return target
    | _ => throw Errno.invalid

/-- Whether a call on a path succeeds with a node of some kind. Errors that mean that nothing is
there, and paths that cannot exist, answer no; other errors are passed on. -/
def probe (h : Host) (p : FsPath) (test : Node → Bool) : Except Failure Bool :=
  match h.stat p with
  | .ok n => .ok (test n)
  | .error .nullByte => .ok false
  | .error (.system errno file) =>
    if errno.isAbsence then .ok false else .error (.system errno file)
  | .error e => .error e

/-- Something exists at a path. -/
def exists? (h : Host) (p : FsPath) : Except Failure Bool := h.probe p fun _ => true

/-- There is a regular file at a path. -/
def isFile (h : Host) (p : FsPath) : Except Failure Bool := h.probe p Node.isFile

/-- There is a directory at a path. -/
def isDir (h : Host) (p : FsPath) : Except Failure Bool := h.probe p Node.isDir

/-- Something is at a path, be it a link that leads nowhere. No call is made. -/
def peek (h : Host) (p : FsPath) : Option Node :=
  match h.locate .inspect p with
  | .ok (_, n) => some n
  | .error _ => none

/-- Make a directory. -/
def mkdir (h : Host) (p : FsPath) (mode : Nat) : Except Failure Host :=
  h.guarded .mkdir p do
    match ← h.find .inspect p with
    | .node _ _ => throw Errno.alreadyExists
    | .absent dir name => return { h with disk := h.disk.set (dir ++ [name]) (.dir mode) }

/-- Change the permissions of what a path leads to. -/
def chmod (h : Host) (p : FsPath) (mode : Nat) : Except Failure Host :=
  h.guarded .chmod p do
    let (place, n) ← h.locate .use p
    return { h with disk := h.disk.set place (n.setMode mode) }

/-- Remove a file or a link. -/
def unlink (h : Host) (p : FsPath) : Except Failure Host :=
  h.guarded .unlink p do
    let (place, n) ← h.locate .inspect p
    if n.isDir then throw Errno.isDirectory
    else return { h with disk := h.disk.removeTree place }

/-- The bytes of a file. -/
def readFile (h : Host) (p : FsPath) : Except Failure (List UInt8) :=
  h.guarded .open p do
    match ← h.locate .use p with
    | (_, .file content _) => return content.data
    | (_, .socket _ _) => return []
    | _ => throw Errno.isDirectory

/-- Replace the bytes of a file, or make a file with them. -/
def writeFile (h : Host) (p : FsPath) (data : List UInt8) : Except Failure Host :=
  h.guarded .open p do
    match ← h.find .create p with
    | .node place (.file _ mode) =>
      return { h with disk := h.disk.set place (.file (.bytes data) mode) }
    | .node place (.socket _ mode) =>
      return { h with disk := h.disk.set place (.file (.bytes data) mode) }
    | .node _ _ => throw Errno.isDirectory
    | .absent dir name =>
      return { h with disk := h.disk.set (dir ++ [name]) (.file (.bytes data) Node.fileMode) }

/-- Whether a connection to the socket at a path is accepted. -/
def accepts (h : Host) (p : FsPath) : Bool :=
  match h.locate .use p with
  | .ok (_, .socket .live _) => true
  | _ => false

/-- The working directory. -/
def workingDirectory (h : Host) : Except Failure FsPath :=
  match h.cwd with
  | some dir => .ok (FsPath.parse dir)
  | none => .error (.system Errno.noEntry none)

/-- Change the host by a call; a failed call changes nothing. -/
def after (h : Host) : Except Failure Host → Except Failure Unit × Host
  | .ok h' => (.ok (), h')
  | .error e => (.error e, h)

/-- A directory that cannot be made does not matter if it is there, unless the way to it is
missing. -/
def tolerate (h : Host) (p : FsPath) : Failure → Except Failure Unit
  | .system errno file =>
    -- Callers make what is missing above and come back.
    if errno = Errno.noEntry then .error (.system errno file)
    else match h.isDir p with
      | .ok true => .ok ()
      | .ok false => .error (.system errno file)
      | .error e => .error e
  | e => .error e

/-- Make a directory unless it is there. -/
def mkdirOnce (h : Host) (p : FsPath) (mode : Nat) : Except Failure Unit × Host :=
  match h.mkdir p mode with
  | .ok h' => (.ok (), h')
  | .error e => (h.tolerate p e, h)

/-- A failed call that found the way to its path missing. -/
def isMissing : Except Failure Unit → Bool
  | .error (.system errno _) => errno == Errno.noEntry
  | _ => false

/-- Make a directory unless it is there, along with missing directories above it. The argument
bounds how far up directories are made. -/
def makeDirs : Nat → Host → FsPath → Nat → Except Failure Unit × Host
  | 0, h, p, mode => h.mkdirOnce p mode
  | bound + 1, h, p, mode =>
    let (r, h₁) := h.mkdirOnce p mode
    -- The way to the directory is missing: make that first, then try once more.
    if isMissing r && p.parent != p then
      match makeDirs bound h₁ p.parent Node.dirMode with
      | (.ok (), h₂) => h₂.mkdirOnce p mode
      | failed => failed
    else (r, h₁)

/-- Make a directory and all that is missing above it; it may be there already. Directories made
before a failure remain. -/
def mkdirs (h : Host) (p : FsPath) (mode : Nat) : Except Failure Unit × Host :=
  makeDirs p.names.length h p mode

end Host

end IndexSync
