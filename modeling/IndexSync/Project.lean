import IndexSync.Glob
import IndexSync.Host.Resolve

/-!
# Projects

A project is a manifest file and the directory that holds it. The search for a project goes from a
directory up to the root, and the first directory with a manifest wins; of several manifests there,
the least path is taken. A search that exhausts the stack fails, unless it does so on the way to
the real path of the start.
-/

namespace IndexSync

/-- How deep calls can be nested while a project is searched for. The calls that are under way
before the search leave less of a stack, and a pattern that shares its end with one read before
needs less. -/
structure Stack where
  /-- Links are followed if fewer of them than this lie inside one another. -/
  links : Nat
  /-- Directories are gone through if no more of them than this lie inside one another; `none` if
  any number of them may. -/
  levels : Option Nat
  /-- The patterns whose segments can be read. -/
  reads : Pattern → Bool

/-- A stack that is never exhausted. -/
def Stack.ample : Stack := ⟨Host.maxNested, none, fun _ => true⟩

/-- A project. -/
structure Project where
  /-- The directory that holds the manifest. -/
  root : FsPath
  /-- The manifest. -/
  manifest : FsPath
  deriving DecidableEq, Repr

namespace Project

/-- The project of a manifest. -/
def ofManifest (manifest : FsPath) : Project := ⟨manifest.parent, manifest⟩

/-- The regular files among paths. -/
def regularFiles (h : Host) : List FsPath → Except Failure (List FsPath)
  | [] => .ok []
  | p :: ps => do
    let keep ← h.isFile p
    let rest ← regularFiles h ps
    return if keep then p :: rest else rest

/-- The regular files below a directory that a pattern selects, if the stack takes the pattern. -/
def filesMatching (stack : Stack) (h : Host) (pattern : Pattern) (dir : FsPath) :
    Except Failure (List FsPath) :=
  if stack.reads pattern then
    let s := h.glob stack.levels pattern dir
    match regularFiles h s.found, s.stopped with
    | .error e, _ => .error e
    | .ok _, some e => .error e
    | .ok files, none => .ok files
  else .error .exhausted

/-- The manifests in a directory by any of the patterns; `none` if a call failed. Patterns are read
as they come up, so that one that cannot be used fails the search. -/
def manifestsIn (stack : Stack) (h : Host) (dir : FsPath) :
    List String → Except Failure (Option (List FsPath))
  | [] => .ok (some [])
  | text :: patterns => do
    -- Patterns that cannot be used are a fault of the settings, not of the directory.
    let pattern ← (Pattern.parse text).mapError Failure.pattern
    match filesMatching stack h pattern dir with
    | .ok files => return (← manifestsIn stack h dir patterns).map (files ++ ·)
    -- That the stack is exhausted is no failure of a call.
    | .error .exhausted => throw .exhausted
    -- One failed call hides all manifests of the directory, those of other patterns included.
    | .error _ => return none

/-- The least manifest in a directory. -/
def manifestIn (stack : Stack) (h : Host) (patterns : List String) (dir : FsPath) :
    Except Failure (Option FsPath) :=
  (manifestsIn stack h dir patterns).map fun files => files.bind FsPath.least?

/-- The project of the first directory with a manifest. -/
def firstOf (stack : Stack) (h : Host) (patterns : List String) :
    List FsPath → Except Failure (Option Project)
  | [] => .ok none
  | dir :: dirs => do
    match ← manifestIn stack h patterns dir with
    | some manifest => return some (ofManifest manifest)
    | none => firstOf stack h patterns dirs

/-- Search for the project of a directory, as far as a stack allows. A directory that cannot be
resolved has none, and neither has one whose links exhaust the stack. -/
def find (stack : Stack) (h : Host) (patterns : List String) (start : FsPath) :
    Traced (Option Project) :=
  match h.resolveWithin stack.links start with
  | .error .nullByte => .fail .nullByte
  | .error e =>
    ⟨[logged .debug .finder ("Cannot resolve " ++ start.text ++ ": " ++ e.message)], .ok none⟩
  | .ok dir => .ofExcept (firstOf stack h patterns dir.chain)

/-- Search for the project of a directory that is given by code points. A path with halves of
surrogate pairs is followed up to the first half that a call would have to take. -/
def findAt (stack : Stack) (h : Host) (patterns : List String) (codes : Text.CodePoints) :
    Traced (Option Project) :=
  let found := find stack h patterns (FsPath.parse codes.veiled)
  match found.outcome, codes.unencodable? with
  | .error .nullByte, some (index, halves) => ⟨found.trace, .error (.unencodable index halves)⟩
  | _, _ => found

/-- Search for the project of a directory, with as much stack as that takes. -/
def search (h : Host) (patterns : List String) (start : FsPath) : Traced (Option Project) :=
  find .ample h patterns start

/-- Search for the project of the working directory, and else for that of the active document,
which is asked for only then. -/
def locate {m : Type → Type} [Monad m] (workingDirectory : m FsPath) (document : m (Option FsPath))
    (search : FsPath → m (Option Project)) : m (Option Project) := do
  match ← search (← workingDirectory) with
  | some project => return some project
  | none =>
    match ← document with
    | some doc => search doc.parent
    | none => return none

end Project

end IndexSync
