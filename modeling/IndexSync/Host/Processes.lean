import IndexSync.Errno
import IndexSync.Script

/-!
# Processes

The processes that a program has started. How each start ends is scripted. Process numbers follow
the number of the program itself in the order of successful starts. The words of a command do not
matter to them, though systems take none with a null character.
-/

namespace IndexSync

/-- How an attempt to start a process ends. -/
inductive LaunchOutcome where
  /-- The process starts and keeps running. -/
  | running
  /-- The process starts and has ended by the time anyone looks. -/
  | exited (code : Int)
  /-- No process is started. -/
  | refused (errno : Errno)
  deriving DecidableEq, Repr

/-- The processes started so far and the script of those to come. -/
structure Processes where
  /-- The outcomes of attempts to come. -/
  script : Script LaunchOutcome := .always .running
  /-- The exit codes of the processes started so far, oldest first; `none` while one runs. -/
  exits : List (Option Int) := []

namespace Processes

/-- The position of a started process among all. -/
abbrev Index := Nat

/-- Try to start a process. -/
def launch (ps : Processes) : Except Errno Index × Processes :=
  match ps.script.take with
  | (.running, script) => (.ok ps.exits.length, ⟨script, ps.exits ++ [none]⟩)
  | (.exited code, script) => (.ok ps.exits.length, ⟨script, ps.exits ++ [some code]⟩)
  | (.refused errno, script) => (.error errno, ⟨script, ps.exits⟩)

/-- The process is running. -/
def isRunning (ps : Processes) (i : Index) : Bool := ps.exits[i]? == some none

/-- The youngest process ends. -/
def endLast (ps : Processes) (code : Int) : Processes :=
  { ps with exits := ps.exits.set (ps.exits.length - 1) (some code) }

end Processes

end IndexSync
