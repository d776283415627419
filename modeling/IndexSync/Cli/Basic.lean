import IndexSync.Cli.Command
import IndexSync.Cli.Markup
import IndexSync.Config.File
import IndexSync.Session

/-!
# The command line program

What the program prints and how it exits, for a command line, a host and a service. Requests for
help or for the version are acted upon as soon as the options in front are read; the configuration
file is chosen next, and only then are the words of the command read.
-/

namespace IndexSync.Cli

/-- How a run of the program ended. -/
structure Report where
  /-- The exit code. -/
  exitCode : Nat
  /-- What was printed. -/
  out : String := ""
  /-- What was printed as errors. -/
  err : String := ""
  /-- The failure that ended the program. -/
  failure : Option Failure := none
  /-- What was done, log records aside. -/
  trace : Trace := []

namespace Report

/-- The program ended with an exit code after printing a text. -/
def printed (exitCode : Nat) (out : String) : Report := { exitCode, out }

/-- The program complained about its use. -/
def complaint (topic : Topic) (fault : UsageFault) : Report :=
  { exitCode := 2, err := topic.complaint fault }

/-- The program was ended by a failure. -/
def failed (e : Failure) : Report := { exitCode := 1, failure := some e }

/-- What came before is put in front. -/
def after (r : Report) (err : String) (trace : Trace) : Report :=
  { r with err := err ++ r.err, trace := trace ++ r.trace }

end Report

/-- The least severe records that are shown. -/
def threshold (verbose : Bool) : Level := if verbose then .debug else .warning

/-- The log record of an event, as a line, if it is shown. -/
def logLine? (verbose : Bool) : Event → Option String
  | .log r => if (threshold verbose).rank ≤ r.level.rank then some (r.line ++ "\n") else none
  | _ => none

/-- The log lines of a trace. -/
def logText (verbose : Bool) (trace : Trace) : String :=
  String.join (trace.filterMap (logLine? verbose))

/-- The event is a log record. -/
def isLog : Event → Bool
  | .log _ => true
  | _ => false

/-- A trace without its log records. -/
def withoutLog (trace : Trace) : Trace := trace.filter fun e => !isLog e

/-- A report after a trace. -/
def Report.afterTrace (r : Report) (verbose : Bool) (trace : Trace) : Report :=
  r.after (logText verbose trace) (withoutLog trace)

/-- A value given as a path cannot hold a null character. -/
def checkPath (text : String) : Except Failure FsPath :=
  if text.toList.contains '\x00' then .error .nullByte else .ok (FsPath.parse text)

/-- The path that an option gives. -/
def pathOption (r : Reading) (opt : Opt) : Except Failure (Option FsPath) :=
  match r.value? opt with
  | none => .ok none
  | some text => (checkPath text).map some

/-- Print lines, each given with its markup, until one of them cannot be shown. -/
def printLines (width : Nat) (out : String) : List String → Except Failure String × String
  | [] => (.ok out, out)
  | line :: rest =>
    match Markup.render width line with
    | .ok text => printLines width (out ++ text ++ "\n") rest
    | .error e => (.error e, out)

/-- Print lines, given with their markup, and a text as it is, and exit. -/
def printing (width exitCode : Nat) (lines : List String) (rest : String) : Report :=
  match printLines width "" lines with
  | (.ok out, _) => .printed exitCode (out ++ rest)
  | (.error e, out) => { Report.failed e with out }

/-- The marked-up line of a failure. -/
def failureLine (e : Failure) : String := "[red]" ++ Markup.escape e.message ++ "[/red]"

/-- A configuration that cannot be loaded is reported; other failures end the program. -/
def loadReport (width : Nat) : Failure → Report
  | .loadFailed file fault => printing width 1 [failureLine (.loadFailed file fault)] ""
  | .invalidConfig violations => printing width 1 [failureLine (.invalidConfig violations)] ""
  | e => .failed e

/-- The style in which a status is shown. -/
def statusStyle : Activation.Status → String
  | .dispatched => "green"
  | .exhausted => "yellow"
  | .registryUnavailable => "yellow"
  | .alreadyInFlight => "dim"

/-- The marked-up line of a status. -/
def statusLine (s : Activation.Status) : String :=
  "[" ++ statusStyle s ++ "]Bootstrap " ++ s.name ++ "[/" ++ statusStyle s ++ "]"

/-- The lines that tell the result of an activation, each given with its markup. -/
def resultLines (r : Activation.Result) : List String :=
  statusLine r.status
    :: (match r.project with
        -- A path is printed as it is, be there tags in it or not.
        | some p => ["  Project: " ++ p.root.text, "  Manifest: " ++ p.manifest.text]
        | none => [])
    ++ (match r.decision with
        | some d => ["  Action: " ++ d.name]
        | none => [])

/-- The exit code that tells the result of an activation. -/
def resultCode (r : Activation.Result) : Nat := if r.status = .dispatched then 0 else 1

/-- Report how the front task ended. -/
def resultReport (width : Nat) : Option (Except Failure Job.Result) → Report
  | some (.ok (.activation (some r))) => printing width (resultCode r) (resultLines r) ""
  | some (.error e) => .failed e
  | _ => .printed 1 ""

/-- Run an activation to its end, with everything it starts. -/
def activateIn (s : Scene) (verbose : Bool) : Report :=
  let (id, s) := s.start "main" .front false
  let s := s.settle
  (resultReport s.world.host.columns (s.pool.result? id)).afterTrace verbose s.world.events

/-- The command that starts the service and reconciles the current project. -/
def start (config : Config) (h : Host) (remote : Remote) (document : Option FsPath)
    (verbose : Bool) : Report :=
  match Session.standalone config h remote (.ofProcess document) with
  | .ok s => activateIn s verbose
  | .error e => .failed e

/-- The command that shows the configuration. -/
def configShow (width : Nat) (file : FsPath) (config : Config) : Report :=
  printing width 0 ["[dim]Config file: " ++ file.text ++ "[/dim]"]
    (Json.pretty config.toValue ++ "\n")

/-- Carry out a command with its configuration. -/
def carryOut (c : Command) (h : Host) (remote : Remote) (verbose : Bool) (file : FsPath)
    (document : Option FsPath) (config : Config) : Report :=
  match c with
  | .start => start config h remote document verbose
  | .configShow => configShow h.columns file config

/-- Load the configuration and carry out a command. -/
def runLoaded (c : Command) (h : Host) (remote : Remote) (verbose : Bool) (file : FsPath)
    (document : Option FsPath) : Report :=
  let loaded := Config.load h file
  (match loaded.outcome with
    | .ok config => carryOut c h remote verbose file document config
    | .error e => loadReport h.columns e).afterTrace verbose loaded.trace

/-- Read the words of a command and run it. -/
def runCommand (c : Command) (h : Host) (remote : Remote) (verbose : Bool) (file : FsPath)
    (words : List String) : Report :=
  match readOptions c.forms true none words with
  | .error fault => .complaint (some c) fault
  | .ok r =>
    if r.has .help then .printed 0 (Topic.help (some c))
    else match pathOption r .document with
      | .error e => .failed e
      | .ok document =>
        -- Values are checked before it is noticed that words are left over.
        if r.words ≠ [] then .complaint (some c) (.extraWords r.words)
        else runLoaded c h remote verbose file document

/-- The configuration file: the given one, or else the nearest one. -/
def chooseFile (h : Host) (given : Option String) : Except Failure FsPath :=
  match given with
  | some text => if text = "" then (ConfigStore.nearest h none).map ConfigStore.file
    else .ok (FsPath.parse text)
  | none => (ConfigStore.nearest h none).map ConfigStore.file

/-- Show what was asked for before all else. -/
def eagerReport : Opt → Report
  | .version => .printed 0 (versionText ++ "\n")
  | _ => .printed 0 (Topic.help none)

/-- What the options in front of a command come to, before the command is looked at: a report that
ends the program, or the options and words. -/
def readFront (words : List String) : Except Report Reading :=
  match readOptions frontForms false none words with
  | .error fault => .error (.complaint none fault)
  | .ok r =>
    match r.eager? with
    | some opt => .error (eagerReport opt)
    | none =>
      match pathOption r .config with
      | .error e => .error (.failed e)
      | .ok _ => .ok r

/-- No command has a name. If the name looks like an option, the words are read as options once
more, which may end the program in another way. -/
def unknownCommand (name : String) (words : List String) : Report :=
  let report := Report.complaint none
    (.noSuchCommand name (similar name (Command.all.map Command.name)))
  if isOptionWord name then
    match readFront words with
    | .error other => other
    | .ok _ => report
  else report

/-- Run the program. -/
def run (h : Host) (remote : Remote) (args : List String) : Report :=
  if args = [] then { exitCode := 2, err := Topic.help none }
  else match readFront args with
    | .error report => report
    | .ok r =>
      match r.words with
      | [] => .complaint none .missingCommand
      | name :: words =>
        match Command.ofName? name with
        | none => unknownCommand name (name :: words)
        | some c =>
          match chooseFile h (r.value? .config) with
          | .error e => .failed e
          | .ok file => runCommand c h remote (r.has .verbose) file words

end IndexSync.Cli
