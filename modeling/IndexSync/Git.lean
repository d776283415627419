import IndexSync.Host.Basic
import IndexSync.Text.Numeral

/-!
# Version control

The fingerprint of a project is the commit its repository is at. The version control program
refuses repositories that belong to another user unless its configuration lists the directory as
safe. Such a setting is passed in the environment, where settings are numbered pairs of variables:
the safe directory takes the first number, and the pairs that were there move up by one.
-/

namespace IndexSync.Git

open Decimal (Double Layout)

/-- The variable that holds the number of settings. -/
def countVariable : String := "GIT_CONFIG_COUNT"

/-- The variable that holds the name of a setting. -/
def keyVariable (i : Nat) : String := "GIT_CONFIG_KEY_" ++ toString i

/-- The variable that holds the value of a setting. -/
def valueVariable (i : Nat) : String := "GIT_CONFIG_VALUE_" ++ toString i

/-- The number of settings that an environment announces; none if it is no number. -/
def settingCount (env : Env) : Int :=
  ((env.get? countVariable).bind Text.integer?).getD 0

/-- A setting of an environment, if both its name and its value are there. -/
def setting? (env : Env) (i : Nat) : Option (String × String) :=
  match env.get? (keyVariable i), env.get? (valueVariable i) with
  | some key, some value => some (key, value)
  | _, _ => none

/-- Write a setting. -/
def putSetting (env : Env) (i : Nat) (key value : String) : Env :=
  (env.set (keyVariable i) key).set (valueVariable i) value

/-- Write the setting that `source` has at a number to the next number. -/
def shiftSetting (source env : Env) (i : Nat) : Env :=
  match setting? source i with
  | some (key, value) => putSetting env (i + 1) key value
  | none => env

/-- The environment with all announced settings moved up by one. -/
def shiftSettings (env : Env) : Env :=
  (List.range (settingCount env).toNat).foldl (shiftSetting env) env

/-- The environment in which the version control program trusts a directory. -/
def environment (env : Env) (dir : FsPath) : Env :=
  -- Announced settings are read before any is moved, so the order of the moves does not matter.
  (putSetting (shiftSettings env) 0 "safe.directory" dir.text).set countVariable
    (toString (settingCount env + 1))

/-- The command that prints the current commit. -/
def headCommand : List String := ["git", "rev-parse", "HEAD"]

/-- Seconds after which the command is given up. -/
def timeLimit : Double := .ofFraction false 5 1

/-- The run of the version control program in a directory. -/
def headRun (h : Host) (dir : FsPath) : GitRun :=
  let env := environment h.env dir
  { command := headCommand
    directory := dir.text
    limit := timeLimit
    capture := true
    decoded := true
    checked := true
    pairCount := env.get? countVariable
    firstValue := env.get? (valueVariable 0) }

/-- The errors of a start that mean that there is no usable repository or program. -/
def isUnavailable (e : Errno) : Bool :=
  e == Errno.noEntry || e == Errno.notDirectory || e.isDenial

/-- There is no fingerprint, for a reason. -/
def unknown (root : FsPath) (reason : String) : Traced (Option String) :=
  ⟨[logged .debug .vcs ("No VCS fingerprint for " ++ root.text ++ ": " ++ reason)], .ok none⟩

/-- The fingerprint in what the version control program printed. -/
def fingerprintOf (output : String) : Option String :=
  let text := Text.strip output
  if text = "" then none else some text

/-- The fingerprint that an outcome of the version control program yields. -/
def interpret (root : FsPath) : CommandOutcome → Traced (Option String)
  | .refused errno file =>
    if isUnavailable errno then unknown root (errno.message (some file))
    else .fail (.system errno (some file))
  | .timedOut =>
    unknown root (CommandOutcome.timeoutMessage headCommand (Layout.message.render timeLimit))
  | .failed code => unknown root (CommandOutcome.codeMessage headCommand code)
  | .printed text => .done (fingerprintOf text)

/-- The current fingerprint of a project, if it has one. -/
def fingerprint (h : Host) (root : FsPath) : Traced (Option String) := do
  Traced.emit (.git (headRun h root))
  interpret root h.git

end IndexSync.Git
