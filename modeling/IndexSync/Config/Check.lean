import IndexSync.Config.Basic
import IndexSync.Config.Numeral

/-!
# Checking configuration data

From dynamic data to a configuration. Every section and every setting is checked, and all violations
are reported, in the order in which the settings are declared. Settings that are not given have
their defaults, and members that are not settings are ignored. In texts and paths that are accepted,
halves of surrogate pairs become replacement characters.
-/

namespace IndexSync.Config

open Decimal (Double)

/-- The outcome of a check: the checked thing or what is wrong. -/
abbrev Checked (α : Type) := Except (List Violation) α

/-- Both checks, with the violations of both. -/
def Checked.both {α β : Type} (a : Checked α) (b : Checked β) : Checked (α × β) :=
  match a, b with
  | .ok x, .ok y => .ok (x, y)
  | .error vs, .ok _ => .error vs
  | .ok _, .error ws => .error ws
  | .error vs, .error ws => .error (vs ++ ws)

/-- Refuse a datum. -/
def refuse {α : Type} (place : List Step) (problem : Problem) (given : Value) : Checked α :=
  .error [⟨place, problem, given⟩]

/-- Floating point integers are accepted strictly between minus and plus this number. -/
def floatBound : Int := 9223372036854775808

/-- The integer that a datum stands for. -/
def integerOf : Value → Except Problem Int
  | .int n => .ok n
  -- Truth values count as numbers, and so do numbers in texts.
  | .bool b => .ok (if b then 1 else 0)
  | .float .nan => .error .notFinite
  | .float (.infinite _) => .error .notFinite
  | .float x =>
    match x.toInt? with
    | none => .error .fractional
    | some n => if -floatBound < n ∧ n < floatBound then .ok n else .error .integerSize
  | .str s =>
    match readInteger s with
    | .number n => .ok n
    | .oversize => .error .integerSize
    | .malformed => .error .integerText
  | .unpaired _ => .error .unpaired
  | _ => .error .notInteger

/-- The number that a datum stands for. -/
def numberOf : Value → Except Problem Double
  | .float x => .ok x
  | .int n =>
    match Double.ofInt? n with
    | some x => .ok x
    | none => .error .notNumber
  | .bool b => .ok (.ofFraction false (if b then 1 else 0) 1)
  | .str s =>
    match readNumber? s with
    | some x => .ok x
    | none => .error .numberText
  | .unpaired _ => .error .unpaired
  | _ => .error .notNumber

/-- Check a datum by a function that may find a problem. -/
def checkWith {α : Type} (place : List Step) (f : Value → Except Problem α) (given : Value) :
    Checked α :=
  match f given with
  | .ok a => .ok a
  | .error problem => refuse place problem given

/-- A setting with a default: the datum under its name, if there is one, goes through the check. -/
def setting {α : Type} (entries : Entries) (place : List Step) (name : String) (default : α)
    (check : List Step → Value → Checked α) : Checked α :=
  match Value.lookup? entries name with
  | some given => check (place ++ [.field name]) given
  | none => .ok default

/-- An integer that fulfils a requirement. -/
def checkInteger (rule : Int → Option Rule) (place : List Step) (given : Value) : Checked Int :=
  match integerOf given with
  | .error problem => refuse place problem given
  | .ok n =>
    match rule n with
    | some r => refuse place (.broken r) given
    | none => .ok n

/-- A budget allows at least one attempt. -/
def attemptsRule (n : Int) : Option Rule := if n < 1 then some (.attempts n) else none

/-- An interval is positive. -/
def intervalRule (n : Int) : Option Rule := if n ≤ 0 then some (.interval n) else none

/-- Any integer will do. -/
def noRule (_ : Int) : Option Rule := none

/-- The items of a sequence. -/
def itemsOf? : Value → Option (List Value)
  | .list items => some items
  | .tuple items => some items
  | _ => none

/-- The texts of a list of data, the first of which has the given index. -/
def checkTexts (place : List Step) : Nat → List Value → Checked (List String)
  | _, [] => .ok []
  | index, item :: items =>
    let head : Checked String := match item with
      | .str s => .ok s
      | .unpaired codes => .ok codes.lossy
      | _ => refuse (place ++ [.item index]) .notText item
    (head.both (checkTexts place (index + 1) items)).map fun (s, rest) => s :: rest

/-- A list of texts. -/
def checkTextList (place : List Step) (given : Value) : Checked (List String) :=
  match itemsOf? given with
  | some items => checkTexts place 0 items
  | none => refuse place .notList given

/-- The patterns that are left when blanks are stripped and blank patterns dropped. -/
def usefulPatterns (texts : List String) : List String :=
  (texts.map Text.strip).filter (· != "")

/-- A list of patterns with at least one that is not blank. -/
def checkPatterns (place : List Step) (given : Value) : Checked (List String) :=
  match checkTextList place given with
  | .error vs => .error vs
  | .ok texts =>
    match usefulPatterns texts with
    | [] => refuse place (.broken .patterns) given
    | patterns => .ok patterns

/-- A path, or nothing. -/
def checkPath (place : List Step) : Value → Checked (Option FsPath)
  | .null => .ok none
  | .str s => .ok (some (FsPath.parse s))
  | .unpaired codes => .ok (some (FsPath.parse codes.lossy))
  | .path p => .ok (some p)
  | given => refuse place .notPath given

/-- A number, or nothing. -/
def checkNumber (place : List Step) : Value → Checked (Option Double)
  | .null => .ok none
  | given => (checkWith place numberOf given).map some

/-- Why data makes no configuration. -/
inductive Refusal where
  /-- The home directory is needed and unknown. -/
  | homeUnknown
  /-- The data has violations. -/
  | invalid (violations : List Violation)

/-- The entries of a section; a section that is not given has none. -/
def sectionOf (data : Entries) (name typeName : String) : Checked Entries :=
  match Value.lookup? data name with
  | none => .ok []
  | some (.map entries) => .ok entries
  | some given => refuse [.field name] (.notSection typeName) given

/-- Check the section on polling. -/
def checkPolling (data : Entries) : Checked Polling := do
  let entries ← sectionOf data "polling" "PollingConfig"
  let d : Polling := {}
  let place := [Step.field "polling"]
  let attempts name default := setting entries place name default (checkInteger attemptsRule)
  let interval name default := setting entries place name default (checkInteger intervalRule)
  let checked :=
    (attempts "max_attempts" d.maxAttempts).both
    <| (interval "warmup_ms" d.warmup).both
    <| (interval "ping_retry_interval_ms" d.pingInterval).both
    <| (interval "discovery_retry_interval_ms" d.discoveryInterval).both
    <| (attempts "registry_attempts" d.registryAttempts).both
    <| interval "registry_retry_interval_ms" d.registryInterval
  let (maxAttempts, warmup, pingInterval, discoveryInterval, registryAttempts, registryInterval) ←
    checked
  return { maxAttempts, warmup, pingInterval, discoveryInterval, registryAttempts,
           registryInterval }

/-- The usual directory of the indexes. -/
def defaultIndexDir (home : FsPath) : FsPath :=
  { home with names := home.names ++ [".cache", "index-bootstrap", "indexes"] }

/-- The user whose home directory a relative path starts in: its first name without the tilde. -/
def userOf? (codes : Text.CodePoints) : Option Text.CodePoints :=
  let names := (Text.fields '/'.toNat codes).filter fun field =>
    !(field == [] || field == ['.'.toNat])
  match codes.head? == some '/'.toNat, names with
  | false, (first :: user) :: _ => if first = '~'.toNat then some user else none
  | _, _ => none

/-- What is wrong with the name of a user, before it is looked up. -/
def userRule (user : Text.CodePoints) : Option Rule :=
  match user.unencodable? with
  | some (index, codes) => some (.userUnpaired index codes)
  | none => if user.contains 0 then some .userNul else none

/-- The place of the directory of the indexes. -/
def indexDirPlace : List Step := [.field "index", .field "index_dir"]

/-- A directory that is known if the home directory is. -/
def knownDir : Option FsPath → Except Refusal (Checked FsPath)
  | some p => .ok (.ok p)
  | none => .error .homeUnknown

/-- Check the directory of the indexes that was given as a text. -/
def checkWrittenDir (home : Option FsPath) (codes : Text.CodePoints) (given : Value) :
    Except Refusal (Checked FsPath) :=
  match (userOf? codes).bind userRule with
  | some rule => .ok (refuse indexDirPlace (.broken rule) given)
  | none => knownDir ((FsPath.parse codes.lossy).expandHome? home)

/-- Check the directory of the indexes. The outer failure is an unknown home directory. -/
def checkIndexDir (home : Option FsPath) (entries : Entries) : Except Refusal (Checked FsPath) :=
  match Value.lookup? entries "index_dir" with
  | none => knownDir (home.map defaultIndexDir)
  | some (.str s) => checkWrittenDir home (Text.codePoints s) (.str s)
  | some (.unpaired codes) => checkWrittenDir home codes (.unpaired codes)
  -- A path that was made by the host is not expanded.
  | some (.path p) => .ok (.ok p)
  | some given => .ok (refuse indexDirPlace (.broken (.indexDir given.typeName)) given)

/-- Check the section on indexes. -/
def checkIndex (home : Option FsPath) (data : Entries) : Except Refusal (Checked Index) :=
  match sectionOf data "index" "IndexConfig" with
  | .error vs => .ok (.error vs)
  | .ok entries => do
    let minSize := setting entries [.field "index"] "min_index_size" 50000 (checkInteger noRule)
    let dir ← checkIndexDir home entries
    return (minSize.both dir).map fun (minSize, dir) => { minSize, dir }

/-- Check the section on the recognition of projects. -/
def checkDiscovery (data : Entries) : Checked Discovery := do
  let entries ← sectionOf data "project" "ProjectConfig"
  let d : Discovery := {}
  let patterns ← setting entries [.field "project"] "manifest_patterns" d.patterns checkPatterns
  return { patterns }

/-- Check the section on the service. -/
def checkService (data : Entries) : Checked Service := do
  let entries ← sectionOf data "service" "ServiceConfig"
  let d : Service := {}
  let place := [Step.field "service"]
  let checked :=
    (setting entries place "command" d.command checkTextList).both
    <| (setting entries place "socket_path" d.socket checkPath).both
    <| setting entries place "request_timeout" d.timeout checkNumber
  let (command, socket, timeout) ← checked
  return { command, socket, timeout }

/-- Make a configuration of data. -/
def ofEntries (home : Option FsPath) (data : Entries) : Except Refusal Config := do
  let index ← checkIndex home data
  let all :=
    (checkPolling data).both <| index.both <| (checkDiscovery data).both <| checkService data
  match all with
  | .ok (polling, index, project, service) => return { polling, index, project, service }
  | .error vs => throw (.invalid vs)

/-- The failure of making a configuration directly. -/
def Refusal.failure : Refusal → Failure
  | .homeUnknown => .homeUnknown
  | .invalid vs => .invalidConfig vs

end IndexSync.Config
