import IndexSync.Decision
import IndexSync.Git

/-!
# Staleness

Whether the index of a registered project can be used as it is. An index counts as complete if it
is a regular file above a size, whatever it holds. A project has changed if it has a fingerprint
now that is not the stored one.
-/

namespace IndexSync

/-- Where fingerprints come from. -/
inductive FingerprintSource where
  /-- The host knows the fingerprint. -/
  | fixed (fingerprint : Option String)
  /-- The version control program is asked. -/
  | git
  deriving DecidableEq, Repr

/-- The current fingerprint of a project. -/
def FingerprintSource.fingerprint (source : FingerprintSource) (h : Host) (root : FsPath) :
    Traced (Option String) :=
  match source with
  | .fixed fingerprint => .done fingerprint
  | .git => Git.fingerprint h root

/-- What is known about the index of a registered project. -/
structure Staleness where
  /-- The index is complete. -/
  indexValid : Bool
  /-- The fingerprint the project has now. -/
  current : Option String
  /-- The fingerprint the project had when it was indexed. -/
  stored : Option String
  deriving DecidableEq, Repr

namespace Staleness

/-- The size up to which an index counts as incomplete unless the configuration says otherwise. -/
def defaultMinSize : Int := 50000

/-- The project has a fingerprint now that differs from the stored one. -/
def changed (s : Staleness) : Bool :=
  match s.current with
  | some current => s.stored != some current
  | none => false

/-- What is to be done for a registered project. -/
def decision (s : Staleness) : Decision := .decide true s.indexValid s.changed

/-- The size of the regular file at a path; `none` if there is no such file. -/
def fileSize? (h : Host) (file : FsPath) : Except Failure (Option Nat) := do
  if ← h.isFile file then return (← h.stat file).size? else return none

/-- An index at a path is complete. One that cannot be looked at is not. -/
def indexComplete (h : Host) (file : FsPath) (minSize : Int) : Traced Bool :=
  match fileSize? h file with
  | .ok (some size) => .done (decide (minSize < size))
  | .ok none => .done false
  -- An index that cannot be looked at has to be built again.
  | .error (.system errno path) =>
    ⟨[logged .debug .staleness
        ("Cannot stat index " ++ file.text ++ ": " ++ errno.message path)], .ok false⟩
  | .error e => .fail e

/-- Look at the index of a project, then at its fingerprint. -/
def assess (source : FingerprintSource) (h : Host) (minSize : Int) (root index : FsPath)
    (stored : Option String) : Traced Staleness := do
  let indexValid ← indexComplete h index minSize
  let current ← source.fingerprint h root
  return ⟨indexValid, current, stored⟩

end Staleness

end IndexSync
