import IndexSync.Failure

/-!
# Events

The trace of what the program does, as seen from outside: log records, requests, waits, tasks
started, calls of collaborators, connections, processes started and socket probes.
-/

namespace IndexSync

open Decimal (Double)

/-- The severity of a log record. -/
inductive Level where
  /-- Details for diagnosis. -/
  | debug
  /-- Normal progress. -/
  | info
  /-- Something went wrong and was contained. -/
  | warning
  deriving DecidableEq, Repr

namespace Level

/-- The name of a level. -/
def name : Level → String
  | .debug => "DEBUG"
  | .info => "INFO"
  | .warning => "WARNING"

/-- Levels in order of severity. -/
def rank : Level → Nat
  | .debug => 10
  | .info => 20
  | .warning => 30

end Level

/-- The part of the program that a log record comes from. -/
inductive Source where
  | config
  | finder
  | vcs
  | staleness
  | rpc
  | registry
  | commands
  | poller
  | dispatcher
  | service
  | bootstrap
  deriving DecidableEq, Repr

/-- The name under which a part of the program logs. -/
def Source.name : Source → String
  | .config => "index_bootstrap.config"
  | .finder => "index_bootstrap.finder"
  | .vcs => "index_bootstrap.vcs"
  | .staleness => "index_bootstrap.staleness"
  | .rpc => "index_bootstrap.rpc"
  | .registry => "index_bootstrap.registry"
  | .commands => "index_bootstrap.commands"
  | .poller => "index_bootstrap.poller"
  | .dispatcher => "index_bootstrap.dispatcher"
  | .service => "index_bootstrap.service"
  | .bootstrap => "index_bootstrap.bootstrap"

/-- A log record. -/
structure LogRecord where
  /-- Its severity. -/
  level : Level
  /-- Where it comes from. -/
  source : Source
  /-- What it says. -/
  text : String
  /-- The failure it reports, if it was written while one was handled. -/
  cause : Option Failure := none

/-- A record as a line of a log file. -/
def LogRecord.line (r : LogRecord) : String :=
  r.level.name ++ ":" ++ r.source.name ++ ":" ++ r.text

/-- A number of seconds, in the form in which it was given. -/
inductive Seconds where
  /-- A whole number. -/
  | whole (n : Int)
  /-- A floating point number. -/
  | measured (x : Double)
  deriving DecidableEq, Repr

/-- A number of seconds as a value. -/
def Seconds.toValue : Seconds → Value
  | .whole n => .int n
  | .measured x => .float x

/-- How a service process is started. -/
structure LaunchMode where
  /-- Its output is discarded. -/
  silentOutput : Bool
  /-- Its error output is discarded. -/
  silentErrors : Bool
  /-- It gets a session of its own, so that it outlives the terminal. -/
  ownSession : Bool

/-- A run of the version control program. -/
structure GitRun where
  /-- The command. -/
  command : List String
  /-- The directory it runs in. -/
  directory : String
  /-- The time limit in seconds. -/
  limit : Double
  /-- Its output is captured. -/
  capture : Bool
  /-- Its output is decoded. -/
  decoded : Bool
  /-- An exit code other than zero is an error. -/
  checked : Bool
  /-- The number of configuration pairs in its environment. -/
  pairCount : Option String
  /-- The value of the first configuration pair. -/
  firstValue : Option String

/-- Something the program did. -/
inductive Event where
  /-- A log record was written. -/
  | log (record : LogRecord)
  /-- A request reached the service. -/
  | request (name : String) (params : Options)
  /-- The host's scheduler was asked to wait. -/
  | wait (ms : Int)
  /-- The program's own scheduler slept. -/
  | sleep (ms : Int)
  /-- The host's scheduler was given a task. -/
  | spawn (name : String)
  /-- A collaborator of the host was executed. -/
  | call (name : String) (options : Options)
  /-- The host's service handle was asked to start the service. -/
  | startService
  /-- A connection to the service was tried. -/
  | connect (path : String) (publicAttributes : Bool) (timeout : Option Seconds)
  /-- A connection was closed. -/
  | disconnect
  /-- The start of a service process was tried. -/
  | launch (command : List String) (mode : LaunchMode)
  /-- The version control program was run. -/
  | git (run : GitRun)
  /-- A socket was given a time limit, or none. -/
  | socketTimeout (seconds : Option Seconds)
  /-- A socket was connected, or the attempt was made. -/
  | socketConnect (path : String)
  /-- A socket was closed. -/
  | socketClose
  /-- The host was asked whether it can proceed, and said so or failed with a text. -/
  | consulted (result : Except String Value)
  /-- Scripted work left a note. -/
  | note (v : Value)
  /-- Scripted work started a task. -/
  | spawned (name : String)
  /-- A dispatch returned, having started this many tasks. -/
  | returned (tasks : Nat)

/-- The trace of a run, in order. -/
abbrev Trace := List Event

/-- A log record as an event. -/
def logged (level : Level) (source : Source) (text : String) : Event :=
  .log ⟨level, source, text, none⟩

/-- The result of an operation that leaves a trace and may fail. -/
structure Traced (α : Type) where
  /-- What it did. -/
  trace : Trace
  /-- How it ended. -/
  outcome : Except Failure α

namespace Traced

/-- End with a result, without a trace. -/
def done {α : Type} (a : α) : Traced α := ⟨[], .ok a⟩

/-- End with a failure, without a trace. -/
def fail {α : Type} (e : Failure) : Traced α := ⟨[], .error e⟩

/-- Leave one event. -/
def emit (e : Event) : Traced Unit := ⟨[e], .ok ()⟩

/-- End as an operation without a trace ended. -/
def ofExcept {α : Type} (r : Except Failure α) : Traced α := ⟨[], r⟩

/-- Go on with the result of an operation; a failure ends both. -/
def andThen {α β : Type} (m : Traced α) (f : α → Traced β) : Traced β :=
  match m.outcome with
  | .ok a => ⟨m.trace ++ (f a).trace, (f a).outcome⟩
  | .error e => ⟨m.trace, .error e⟩

instance : Monad Traced where
  pure := done
  bind := andThen

section Laws

variable {α β γ : Type}

theorem done_andThen (a : α) (f : α → Traced β) : (done a).andThen f = f a := by
  simp [andThen, done]

theorem andThen_done (m : Traced α) : m.andThen done = m := by
  obtain ⟨trace, outcome⟩ := m
  cases outcome <;> simp [andThen, done]

theorem andThen_assoc (m : Traced α) (f : α → Traced β) (g : β → Traced γ) :
    (m.andThen f).andThen g = m.andThen fun a => (f a).andThen g := by
  obtain ⟨trace, outcome⟩ := m
  cases outcome with
  | error e => rfl
  | ok a => cases h : (f a).outcome <;> simp [andThen, h]

instance : LawfulMonad Traced :=
  LawfulMonad.mk' Traced andThen_done done_andThen andThen_assoc

end Laws

end Traced

end IndexSync
