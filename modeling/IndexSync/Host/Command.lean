import IndexSync.Errno

/-!
# Commands that are waited for

How a command ends that the program runs to the end for its output, and the wording of an end
without output. Left out is an output that is no UTF-8, the reading of which fails.
-/

namespace IndexSync

/-- How a command that is waited for ends. -/
inductive CommandOutcome where
  /-- It could not be started; the error names a file. -/
  | refused (errno : Errno) (file : String)
  /-- It did not end in time. -/
  | timedOut
  /-- It ended with an exit code other than zero; a negative one is the number of a signal. -/
  | failed (code : Int)
  /-- It ended well and printed a text. -/
  | printed (text : String)
  deriving DecidableEq, Repr

namespace CommandOutcome

/-- The names of the signals from the first on. -/
def signalNames : List String :=
  ["SIGHUP", "SIGINT", "SIGQUIT", "SIGILL", "SIGTRAP", "SIGABRT", "SIGBUS", "SIGFPE", "SIGKILL",
   "SIGUSR1", "SIGSEGV", "SIGUSR2", "SIGPIPE", "SIGALRM", "SIGTERM", "SIGSTKFLT", "SIGCHLD",
   "SIGCONT", "SIGSTOP", "SIGTSTP", "SIGTTIN", "SIGTTOU", "SIGURG", "SIGXCPU", "SIGXFSZ",
   "SIGVTALRM", "SIGPROF", "SIGWINCH", "SIGIO", "SIGPWR", "SIGSYS"]

/-- The name of a signal. -/
def signalName? (n : Nat) : Option String :=
  if n = 34 then some "SIGRTMIN"
  else if n = 64 then some "SIGRTMAX"
  else match n with
    | 0 => none
    | k + 1 => signalNames[k]?

/-- The text of a command: its words, quoted, in brackets. -/
def commandText (words : List String) : String :=
  "[" ++ ", ".intercalate (words.map Text.quote) ++ "]"

/-- The wording of an exit code other than zero. -/
def codeMessage (words : List String) (code : Int) : String :=
  let subject := "Command '" ++ commandText words ++ "' "
  if code < 0 then
    match signalName? code.natAbs with
    | some name =>
      subject ++ "died with <Signals." ++ name ++ ": " ++ toString code.natAbs ++ ">."
    | none => subject ++ "died with unknown signal " ++ toString code.natAbs ++ "."
  else subject ++ "returned non-zero exit status " ++ toString code ++ "."

/-- The wording of a command that took too long, given the limit in seconds. -/
def timeoutMessage (words : List String) (limit : String) : String :=
  "Command '" ++ commandText words ++ "' timed out after " ++ limit ++ " seconds"

end CommandOutcome

end IndexSync
