import IndexSync.Config.Basic
import IndexSync.Dispatch
import IndexSync.Poll
import IndexSync.Registry.Query

/-!
# Activations

An activation has the service started, polls it until it answers, finds the project the user is in,
asks the service whether it knows the project, and starts what follows from that, once. While one
activation is busy with a project, others leave that project alone.
-/

namespace IndexSync

/-- What all activations of one host have in common. -/
structure Setup where
  /-- The configuration. -/
  config : Config
  /-- Whether letter case distinguishes roots. -/
  caseRule : CaseRule
  /-- The number of the process. -/
  pid : Nat
  /-- The actions that the host does itself. -/
  crew : Crew := []

namespace Setup

/-- The file that holds the index of a root. -/
def indexFile (s : Setup) (root : FsPath) : FsPath :=
  PathKey.indexFile s.caseRule s.config.index.dir root.text

/-- The key under which a project is claimed. -/
def key (s : Setup) (project : Project) : String := PathKey.ofPath s.caseRule project.root

/-- The settings of polling. -/
def pollSettings (s : Setup) : Poll.Settings :=
  { maxAttempts := s.config.polling.maxAttempts
    warmup := s.config.polling.warmup
    pingInterval := s.config.polling.pingInterval
    discoveryInterval := s.config.polling.discoveryInterval }

end Setup

namespace Activation

/-- What is to be done for a project, given the records of the service. The index and the
fingerprint are looked at only if the project is registered. -/
def judge (s : Setup) (project : Project) (records : List Record) : Program Decision :=
  match Record.find? s.caseRule records project.root.text with
  -- Without a record there is nothing whose staleness could be judged.
  | none => return .decide false false false
  | some record => do
    let staleness ← Program.assess project.root (s.indexFile project.root) record.fingerprint
    return staleness.decision

/-- The caller's settings with the place of the index filled in. -/
def indexOptions (s : Setup) (project : Project) (options : Option Options) : Options :=
  (options.getD []).put Setting.indexPath.key (.str (s.indexFile project.root).text)

/-- Find out what the service knows about a project and start what follows from that. -/
def reconcile (s : Setup) (project : Project) (options : Option Options) : Program Result := do
  match ← Registry.fetchWithRetry s.config.polling.registryAttempts
      s.config.polling.registryInterval with
  | none => return ⟨.registryUnavailable, some project, none⟩
  | some records =>
    let decision ← judge s project records
    let _ ← Dispatch.dispatch decision project (some (indexOptions s project options))
    return ⟨.dispatched, some project, some decision⟩

/-- Reconcile a project unless another activation is busy with it. The claim on the project is
given up however the reconciliation ends. -/
def guarded (s : Setup) (project : Project) (options : Option Options) : Program Result := do
  let key := s.key project
  -- Test and claim are one step, so that no other task comes in between.
  if ← Program.enter key then
    (reconcile s project options).ensuring (Program.leave key)
  else
    Program.log .debug .bootstrap
      ("Bootstrap already in progress for " ++ project.root.text)
    return ⟨.alreadyInFlight, some project, none⟩

/-- Find the project and reconcile it; without a project it is too early. -/
def resolve (s : Setup) (options : Option Options) : Program (Option Result) := do
  match ← Program.locate with
  | none =>
    Program.log .debug .bootstrap "No project found from working directory or active document"
    return none
  | some project => return some (← guarded s project options)

/-- Poll until the project can be resolved. -/
def run (s : Setup) (options : Option Options) : Program Result := do
  let polled ← Poll.run s.pollSettings s.pid .idle (resolve s options)
  match ← Program.done polled.outcome with
  | .connected _ result => return result
  | .exhausted _ => return ⟨.exhausted, none, none⟩

/-- Have the service started and an activation run in the background. -/
def activate (options : Option Options) : Program TaskId := do
  Program.call .startService
  Program.spawn "bootstrap" (.activation options)

/-- Activate, and wait until everything started on the way is done. -/
def front : Program Job.Result := do
  let task ← activate none
  let result ← Program.join task
  -- The tasks of the dispatch are still to send their requests.
  Program.drain
  return result

end Activation

end IndexSync
