import IndexSync.Task.Program

/-!
# Dispatch

A decision is turned into actions, each carried out by a task of its own, so that dispatching
returns at once. Actions do not depend on each other, except that a project is watched and
refreshed only once its registration has succeeded. No failure leaves the task it occurred in.
-/

namespace IndexSync

/-- The actions that the host does itself. The service is asked for the others. -/
abbrev Crew := List Action

namespace Dispatch

/-- Ask the service for an action. -/
def command (action : Action) (options : Options) : Program Bool :=
  match options.get? Setting.projectRoot.key with
  | none => Program.fail (.missingOption Setting.projectRoot.key)
  | some root => do
    let response ← Program.request action.name (action.params root options)
    if !response.ok then
      Program.log .warning .commands
        (action.name ++ " rejected for " ++ root.text ++ ": " ++ response.error.text)
    return response.ok

/-- Have an action done by the host or by the service. -/
def execute (crew : Crew) (action : Action) (options : Options) : Program Value :=
  if crew.contains action then Program.perform action options
  else do return .bool (← command action options)

/-- The caller's settings with the project filled in. -/
def projectOptions (project : Project) (options : Option Options) : Options :=
  ((options.getD []).put Setting.projectRoot.key (.str project.root.text)).put
    Setting.manifestPath.key (.str project.manifest.text)

/-- Settings with the scope set to everything. -/
def fullScope (options : Options) : Options :=
  options.put Setting.scope.key (.str Scope.full.name)

/-- The text of the root that settings are about. -/
def rootText (options : Options) : String := (Action.optional options .projectRoot).text

/-- Start a task for an action. -/
def start (action : Action) (options : Options) : Program TaskId :=
  Program.spawn (action.name ++ ":" ++ rootText options) (.call action options)

/-- The task of an action: failures are logged. -/
def callProgram (crew : Crew) (action : Action) (options : Options) : Program Unit := do
  match ← (execute crew action options).attempt with
  | .ok _ => return ()
  | .error e =>
    Program.warn .dispatcher (action.name ++ " failed for " ++ rootText options) e

/-- Register a project; a failed registration is logged and counts as none. -/
def register (crew : Crew) (options : Options) : Program Bool := do
  match ← (execute crew .register options).attempt with
  | .ok v => return v.truthy
  | .error e =>
    Program.warn .dispatcher ("Registration failed for " ++ rootText options) e
    return false

/-- The task of a registration, which watches and refreshes the project on success. -/
def chainProgram (crew : Crew) (options : Options) : Program Bool := do
  if ← register crew options then
    -- Both wait for the registration and not for each other.
    let _ ← start .watch options
    let _ ← start .refresh (fullScope options)
    return true
  else
    Program.log .info .dispatcher
      ("Registration of " ++ rootText options
        ++ " did not succeed; skipping watch and refresh")
    return false

/-- Start what a decision calls for, and tell the tasks that were started. -/
def dispatch (decision : Decision) (project : Project) (options : Option Options) :
    Program (List TaskId) := do
  let options := projectOptions project options
  let root := project.root.text
  match decision with
  | .synced =>
    Program.log .debug .dispatcher ("Index service is ready for project: " ++ root)
    return []
  | .refreshOnly =>
    Program.log .info .dispatcher ("VCS changed for " ++ root ++ ". Refreshing...")
    return [← start .refresh (options.erase Setting.scope.key)]
  | .fullRefreshAndWatch =>
    Program.log .info .dispatcher
      ("Index missing for " ++ root ++ ". Starting full refresh...")
    let refresh ← start .refresh (fullScope options)
    let watch ← start .watch options
    return [refresh, watch]
  | .registerFirst =>
    Program.log .info .dispatcher ("Registering and initializing project: " ++ root)
    return [← Program.spawn ("register:" ++ root) (.chain options)]

end Dispatch

end IndexSync
