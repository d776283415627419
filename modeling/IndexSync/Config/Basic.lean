import IndexSync.Host.Basic

/-!
# Configurations

The settings of the program in four sections, their defaults, and their form as a document.
-/

namespace IndexSync

open Decimal (Double)

namespace Config

/-- The budgets and intervals of polling and of the registry query. -/
structure Polling where
  /-- Liveness probes per activation before giving up. -/
  maxAttempts : Int := 30
  /-- Delay before the first liveness probe. -/
  warmup : Int := 200
  /-- Delay after a failed liveness probe. -/
  pingInterval : Int := 500
  /-- Delay after the project could not be located. -/
  discoveryInterval : Int := 1000
  /-- Requests for the project list before giving up. -/
  registryAttempts : Int := 3
  /-- Delay after a failed request for the project list. -/
  registryInterval : Int := 500
  deriving DecidableEq, Repr

/-- Where indexes are kept and when they count as complete. -/
structure Index where
  /-- Indexes of at most this size count as missing. -/
  minSize : Int := 50000
  /-- The directory that holds one index per project. -/
  dir : FsPath
  deriving DecidableEq, Repr

/-- How projects are recognised. -/
structure Discovery where
  /-- The patterns of manifest files. -/
  patterns : List String := ["*.uproject"]
  deriving DecidableEq, Repr

/-- How the service is started and reached. -/
structure Service where
  /-- The command that starts the service, with a placeholder for the socket. -/
  command : List String := ["index-service", "--socket", "\x7bsocket\x7d"]
  /-- Where the socket is, if not at its usual place. -/
  socket : Option FsPath := none
  /-- Seconds to wait for a reply; `none` waits without limit. -/
  timeout : Option Double := some (.ofFraction false 30 1)
  deriving DecidableEq, Repr

end Config

/-- A configuration. -/
structure Config where
  /-- Budgets and intervals. -/
  polling : Config.Polling
  /-- Indexes. -/
  index : Config.Index
  /-- Recognition of projects. -/
  project : Config.Discovery
  /-- The service. -/
  service : Config.Service
  deriving DecidableEq, Repr

namespace Config

/-- A mapping with text keys, as a value. -/
def object (members : List (String × Value)) : Value := .ofOptions members

/-- The section of budgets and intervals in a document. -/
def Polling.toValue (p : Polling) : Value :=
  object
    [("max_attempts", .int p.maxAttempts),
     ("warmup_ms", .int p.warmup),
     ("ping_retry_interval_ms", .int p.pingInterval),
     ("discovery_retry_interval_ms", .int p.discoveryInterval),
     ("registry_attempts", .int p.registryAttempts),
     ("registry_retry_interval_ms", .int p.registryInterval)]

/-- The section of indexes in a document. -/
def Index.toValue (i : Index) : Value :=
  object [("min_index_size", .int i.minSize), ("index_dir", .str i.dir.text)]

/-- The section of project recognition in a document. -/
def Discovery.toValue (d : Discovery) : Value :=
  object [("manifest_patterns", .list (d.patterns.map .str))]

/-- The section of the service in a document. -/
def Service.toValue (s : Service) : Value :=
  object
    [("command", .list (s.command.map .str)),
     ("socket_path", (s.socket.map fun p => Value.str p.text).getD .null),
     ("request_timeout", (s.timeout.map Value.float).getD .null)]

/-- The document of a configuration. -/
def toValue (c : Config) : Value :=
  object
    [("polling", c.polling.toValue), ("index", c.index.toValue), ("project", c.project.toValue),
     ("service", c.service.toValue)]

end Config

/-- Drop slashes at the end of a text. -/
def dropTrailingSlashes (cs : List Char) : List Char :=
  (cs.reverse.dropWhile (· == '/')).reverse

/-- The home directory: the variable without slashes at its end, or the root if nothing is left. A
home that starts with a tilde is unknown. -/
def Host.home? (h : Host) : Option FsPath :=
  match h.env.get? "HOME" with
  | none => none
  | some text =>
    match dropTrailingSlashes text.toList with
    | [] => some ⟨.root, []⟩
    | '~' :: _ => none
    | cs => some (FsPath.parse (String.ofList cs))

/-- A path whose first name is a tilde starts at the home directory. Homes of other users are
unknown. -/
def FsPath.expandHome? (home : Option FsPath) (p : FsPath) : Option FsPath :=
  match p.anchor, p.names with
  | .relative, first :: rest =>
    match first.toList with
    | ['~'] => home.map fun dir => { dir with names := dir.names ++ rest }
    | '~' :: _ => none
    | _ => some p
  | _, _ => some p

end IndexSync
