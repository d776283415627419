import IndexSync.Cli.Similar
import IndexSync.Text.Fields
import IndexSync.Text.Quoted

/-!
# Command line options

Reading the options of a command from the words of a command line. A long option stands by itself
and may carry a value after an equals sign; short options may share a word, where the first one that
takes a value takes the rest of the word. An option whose word holds no value takes the next word,
whatever it looks like.
-/

namespace IndexSync.Cli

/-- The options of the program. -/
inductive Opt where
  /-- The configuration file. -/
  | config
  /-- More log records. -/
  | verbose
  /-- Show the version. -/
  | version
  /-- Show the help. -/
  | help
  /-- The active document. -/
  | document
  deriving DecidableEq, Repr

/-- How an option is written. -/
structure OptionForm where
  /-- The option. -/
  opt : Opt
  /-- Its letter. -/
  short : Option Char
  /-- Its long name, dashes included. -/
  long : String
  /-- It takes a value. -/
  takesValue : Bool

/-- What is wrong with a command line. -/
inductive UsageFault where
  /-- There is no command. -/
  | missingCommand
  /-- No command has this name; similar names may be meant. -/
  | noSuchCommand (name : String) (meant : List String)
  /-- No option has this name; similar names may be meant. -/
  | noSuchOption (name : String) (meant : List String)
  /-- An option lacks its value. -/
  | valueMissing (name : String)
  /-- An option is given a value that it does not take. -/
  | valueRefused (name : String)
  /-- There are words that no option takes. -/
  | extraWords (words : List String)
  deriving DecidableEq, Repr

namespace UsageFault

/-- A hint at the names that may be meant. -/
def hint : List String → String
  | [] => ""
  | [name] => " Did you mean " ++ Text.quote name ++ "?"
  | names =>
    " (Did you mean one of: "
      ++ ", ".intercalate ((names.mergeSort fun a b => decide (a ≤ b)).map Text.quote) ++ "?)"

/-- The wording of a fault. -/
def message : UsageFault → String
  | .missingCommand => "Missing command."
  | .noSuchCommand name meant =>
    "No such command " ++ Text.quote name ++ "." ++ hint meant
  | .noSuchOption name meant => "No such option " ++ Text.quote name ++ "." ++ hint meant
  | .valueMissing name => "Option " ++ Text.quote name ++ " requires an argument."
  | .valueRefused name => "Option " ++ Text.quote name ++ " does not take a value."
  | .extraWords [word] => "Got unexpected extra argument (" ++ word ++ ")"
  | .extraWords words => "Got unexpected extra arguments (" ++ " ".intercalate words ++ ")"

/-- The usage of the command is shown along with the fault. -/
def showsUsage : UsageFault → Bool
  | .valueMissing _ => false
  | .valueRefused _ => false
  | _ => true

end UsageFault

/-- An option that was given, with its value if it takes one. -/
structure Given where
  /-- The option. -/
  opt : Opt
  /-- Its value. -/
  value : Option String := none
  deriving DecidableEq, Repr

/-- What a word of options says: the options given, and the one, with its name, whose value is the
next word. -/
structure WordReading where
  /-- The options given, in order. -/
  given : List Given := []
  /-- The option that takes the next word, and its name. -/
  awaiting : Option (Opt × String) := none

/-- The form with the given long name. -/
def longForm? (forms : List OptionForm) (name : String) : Option OptionForm :=
  forms.find? fun f => f.long == name

/-- The form with the given letter. -/
def shortForm? (forms : List OptionForm) (letter : Char) : Option OptionForm :=
  forms.find? fun f => f.short == some letter

/-- Read a long option, with the value that its word holds. -/
def readLong (form : OptionForm) (value : Option String) : Except UsageFault WordReading :=
  match form.takesValue, value with
  | true, some v => .ok ⟨[⟨form.opt, some v⟩], none⟩
  | true, none => .ok ⟨[], some (form.opt, form.long)⟩
  | false, some _ => .error (.valueRefused form.long)
  | false, none => .ok ⟨[⟨form.opt, none⟩], none⟩

/-- The name of a short option. -/
def shortName (letter : Char) : String := String.ofList ['-', letter]

/-- Read the short options that share a word. -/
def readShort (forms : List OptionForm) : List Char → Except UsageFault WordReading
  | [] => .ok {}
  | letter :: rest =>
    match shortForm? forms letter with
    | none => .error (.noSuchOption (shortName letter) [])
    | some form =>
      if form.takesValue then
        if rest = [] then .ok ⟨[], some (form.opt, shortName letter)⟩
        else .ok ⟨[⟨form.opt, some (String.ofList rest)⟩], none⟩
      else do
        let more ← readShort forms rest
        return { more with given := ⟨form.opt, none⟩ :: more.given }

/-- Split a word at its first equals sign. -/
def splitValue (cs : List Char) : String × Option String :=
  match cs.dropWhile (· != '=') with
  | [] => (String.ofList cs, none)
  | _ :: value => (String.ofList (cs.takeWhile (· != '=')), some (String.ofList value))

/-- Read a word that starts with a dash. -/
def readWord (forms : List OptionForm) (word : String) : Except UsageFault WordReading :=
  let (name, value) := splitValue word.toList
  match longForm? forms name with
  | some form => readLong form value
  | none =>
    match word.toList with
    -- A word with two dashes is never read as letters.
    | '-' :: '-' :: _ => .error (.noSuchOption name (similar name (forms.map OptionForm.long)))
    | cs => readShort forms (cs.drop 1)

/-- A word that holds options. -/
def isOptionWord (word : String) : Bool :=
  match word.toList with
  | '-' :: _ :: _ => true
  | _ => false

/-- The options and the other words of a command line. -/
structure Reading where
  /-- The options given, in order. -/
  given : List Given := []
  /-- The other words. -/
  words : List String := []

/-- Read a command line. Options may follow other words only if `mixed` is set; otherwise the first
other word ends the options, as a word of two dashes always does. -/
def readOptions (forms : List OptionForm) (mixed : Bool) :
    Option (Opt × String) → List String → Except UsageFault Reading
  | some (_, name), [] => .error (.valueMissing name)
  | some (opt, _), word :: rest => do
    let r ← readOptions forms mixed none rest
    return { r with given := ⟨opt, some word⟩ :: r.given }
  | none, [] => .ok {}
  | none, word :: rest =>
    -- Two dashes end the options and are dropped themselves.
    if word = "--" then .ok ⟨[], rest⟩
    else if isOptionWord word then do
      let here ← readWord forms word
      let r ← readOptions forms mixed here.awaiting rest
      return { r with given := here.given ++ r.given }
    else if mixed then do
      let r ← readOptions forms mixed none rest
      return { r with words := word :: r.words }
    else .ok ⟨[], word :: rest⟩

namespace Reading

/-- The option that is acted upon before all else: the first request for help or for the version. -/
def eager? (r : Reading) : Option Opt :=
  (r.given.find? fun g => g.opt == .help || g.opt == .version).map Given.opt

/-- The option was given. -/
def has (r : Reading) (opt : Opt) : Bool := r.given.any fun g => g.opt == opt

/-- The value of an option; the last one given counts. -/
def value? (r : Reading) (opt : Opt) : Option String :=
  (r.given.reverse.find? fun g => g.opt == opt).bind Given.value

end Reading

end IndexSync.Cli
