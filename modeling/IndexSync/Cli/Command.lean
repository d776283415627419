import IndexSync.Cli.Options

/-!
# Commands of the command line

The program has two commands below a common front. Each has options of its own and a help text.
-/

namespace IndexSync.Cli

/-- The name of the program. -/
def programName : String := "index-bootstrap"

/-- The version of the program. -/
def versionText : String := programName ++ ", version 0.3.0"

/-- The form of the help option. -/
def helpForm : OptionForm := ⟨.help, none, "--help", false⟩

/-- The commands. -/
inductive Command where
  /-- Start the service and reconcile the current project. -/
  | start
  /-- Show the configuration. -/
  | configShow
  deriving DecidableEq, Repr

namespace Command

/-- The name of a command. -/
def name : Command → String
  | .start => "start"
  | .configShow => "config-show"

/-- All commands, in alphabetical order. -/
def all : List Command := [.configShow, .start]

/-- The command with the given name. -/
def ofName? (s : String) : Option Command := all.find? fun c => c.name == s

/-- The options of a command. -/
def forms : Command → List OptionForm
  | .start => [⟨.document, some 'd', "--document", true⟩, helpForm]
  | .configShow => [helpForm]

end Command

/-- The options in front of the command. -/
def frontForms : List OptionForm :=
  [⟨.config, some 'c', "--config", true⟩, ⟨.verbose, some 'v', "--verbose", false⟩,
   ⟨.version, none, "--version", false⟩, helpForm]

/-- What usage is shown for: the program, or a command of it. -/
abbrev Topic := Option Command

namespace Topic

/-- The words that lead to a topic. -/
def path : Topic → String
  | none => programName
  | some c => programName ++ " " ++ c.name

/-- The line that says how to use a topic. -/
def usageLine : Topic → String
  | none => "Usage: " ++ path none ++ " [OPTIONS] COMMAND [ARGS]..."
  | some c => "Usage: " ++ path (some c) ++ " [OPTIONS]"

/-- The help on a topic below the usage line. -/
def body : Topic → List String
  | none =>
    ["  Bring the background index service in line with the current project.",
     "",
     "Options:",
     "  -c, --config PATH  Config file path",
     "  -v, --verbose      Verbose output",
     "  --version          Show the version and exit.",
     "  --help             Show this message and exit.",
     "",
     "Commands:",
     "  config-show  Print the effective configuration.",
     "  start        Start the index service and reconcile the current project."]
  | some .start =>
    ["  Start the index service and reconcile the current project.",
     "",
     "Options:",
     "  -d, --document PATH  Active document; used when the working directory is not",
     "                       inside a project",
     "  --help               Show this message and exit."]
  | some .configShow =>
    ["  Print the effective configuration.",
     "",
     "Options:",
     "  --help  Show this message and exit."]

/-- Lines, each with its end. -/
def linesText (lines : List String) : String :=
  String.join (lines.map (· ++ "\n"))

/-- The help on a topic. -/
def help (t : Topic) : String := linesText (t.usageLine :: "" :: t.body)

/-- What is shown for a fault in the use of a topic. -/
def complaint (t : Topic) (fault : UsageFault) : String :=
  let error := "Error: " ++ fault.message
  if fault.showsUsage then
    linesText [t.usageLine, "Try '" ++ t.path ++ " --help' for help.", "", error]
  else linesText [error]

end Topic

end IndexSync.Cli
