import IndexSync.Activation.Basic
import IndexSync.Rpc.Channel
import IndexSync.Service

/-!
# Worlds

The surroundings of tasks: the host, the service at the other end, where the user is, what the host
does itself, and the claims on projects. A world keeps the events so far and answers what tasks ask
for, except where other tasks are concerned.
-/

namespace IndexSync

open Decimal (Double)

/-- Where the user is. -/
inductive Whereabouts where
  /-- The host tells the working directory and the active document, as a script. -/
  | told (cwd : Script FsPath) (document : Script (Option FsPath))
  /-- The working directory is that of the process. The active document is the given one, or else
  the one that the environment names. -/
  | ofProcess (document : Option FsPath)

namespace Whereabouts

/-- The variable that names the active document. -/
def documentVariable : String := "INDEX_BOOTSTRAP_ACTIVE_DOCUMENT"

/-- The active document that the environment names. -/
def documentOf (env : Env) : Option FsPath :=
  let text := Text.strip ((env.get? documentVariable).getD "")
  if text = "" then none else some (FsPath.parse text)

/-- The working directory. -/
def workingDirectory (w : Whereabouts) (h : Host) : Except Failure FsPath × Whereabouts :=
  match w with
  | .told cwd document => (.ok cwd.next, .told cwd.rest document)
  | .ofProcess document => (h.workingDirectory, .ofProcess document)

/-- The active document. -/
def document (w : Whereabouts) (h : Host) : Option FsPath × Whereabouts :=
  match w with
  | .told cwd document => (document.next, .told cwd document.rest)
  | .ofProcess document => (document.or (documentOf h.env), .ofProcess document)

end Whereabouts

/-- Who starts tasks and waits. -/
inductive Scheduling where
  /-- The host, which records what it is asked for. -/
  | byHost
  /-- The program itself, which sleeps for a number of seconds. -/
  | own
  deriving DecidableEq, Repr

namespace Scheduling

/-- The milliseconds in a second. -/
def perSecond : Nat := 1000

/-- The event of a wait. A delay is turned into seconds for a sleep; one beyond all numbers of
seconds cannot be slept. -/
def waiting (s : Scheduling) (ms : Int) : Except Failure Event :=
  match s with
  | .byHost => .ok (.wait ms)
  | .own =>
    match Double.ofInt? ms with
    | none => .error .delayTooLong
    -- Both steps round as doubles do, so a long delay may be off by some milliseconds.
    | some x => .ok (.sleep ((x.divNat perSecond).mulNat perSecond).round)

/-- The events of starting a task. -/
def spawning (s : Scheduling) (name : String) : Trace :=
  match s with
  | .byHost => [.spawn name]
  | .own => []

end Scheduling

/-- Who starts the service. -/
inductive Starter where
  /-- The host. -/
  | byHost
  /-- A handle on the service process. -/
  | handle (service : Service)

/-- What the host does when it is asked for an action. -/
inductive Performance where
  /-- It returns a value. -/
  | returns (v : Value)
  /-- It fails with a text. -/
  | raises (text : String)

/-- How a performance ends. -/
def Performance.outcome : Performance → Except Failure Value
  | .returns v => .ok v
  | .raises text => .error (.raised text)

/-- The surroundings of tasks. -/
structure World where
  /-- The machine. -/
  host : Host
  /-- The service. -/
  remote : Remote := []
  /-- How requests reach the service. -/
  channel : Channel := .direct
  /-- Where the user is. -/
  whereabouts : Whereabouts := .ofProcess none
  /-- The patterns of manifests. -/
  patterns : List String := []
  /-- Indexes of at most this size count as missing. -/
  minSize : Int := Staleness.defaultMinSize
  /-- Where fingerprints come from. -/
  fingerprints : FingerprintSource := .git
  /-- What the host does for the actions it does itself. -/
  performances : List (Action × Performance) := []
  /-- What the host says when asked whether it can proceed. -/
  consultations : Script Performance := .always (.returns .null)
  /-- Who starts tasks and waits. -/
  scheduling : Scheduling := .byHost
  /-- Who starts the service. -/
  starter : Starter := .byHost
  /-- The keys of projects that activations are busy with. -/
  inFlight : List String := []
  /-- The events so far, latest first. -/
  history : List Event := []

/-- Something done in a world, with a result unless it fails. -/
abbrev Act (α : Type) := ExceptT Failure (StateM World) α

namespace World

/-- The world after an event. -/
def after (w : World) (e : Event) : World := { w with history := e :: w.history }

/-- The world after events in order. -/
def afterAll (w : World) (trace : Trace) : World := trace.foldl after w

/-- The events so far, in order. -/
def events (w : World) : Trace := w.history.reverse

@[simp]
theorem events_after (w : World) (e : Event) : (w.after e).events = w.events ++ [e] := by
  simp [after, events]

/-- The world after events differs from the world before in the events. -/
theorem afterAll_eq (w : World) (trace : Trace) :
    w.afterAll trace = { w with history := trace.reverse ++ w.history } := by
  unfold afterAll
  induction trace generalizing w with
  | nil => rfl
  | cons e trace ih =>
    rw [List.foldl_cons, ih, after, List.reverse_cons, List.append_assoc]
    rfl

@[simp]
theorem events_afterAll (w : World) (trace : Trace) :
    (w.afterAll trace).events = w.events ++ trace := by
  simp [afterAll_eq, events]

/-- The world with no events. -/
def forget (w : World) : World := { w with history := [] }

/-- Do something that ends in a known way and a known world. -/
def step {α : Type} (f : World → Except Failure α × World) : Act α := fun w => f w

/-- Record an event. -/
def emit (e : Event) : Act Unit := step fun w => (.ok (), w.after e)

/-- Do something that leaves a trace and changes nothing else. -/
def traced {α : Type} (f : World → Traced α) : Act α := step fun w =>
  let t := f w
  (t.outcome, w.afterAll t.trace)

/-- Have the service running. -/
def startService : Act Unit := step fun w =>
  match w.starter with
  | .byHost => (.ok (), w.after .startService)
  | .handle service =>
    let r := service.ensureStarted w.host
    (r.outcome, { w.afterAll r.trace with host := r.host, starter := .handle r.service })

/-- Wait for some milliseconds. -/
def wait (ms : Int) : Act Unit := step fun w =>
  match w.scheduling.waiting ms with
  | .ok e => (.ok (), w.after e)
  | .error e => (.error e, w)

/-- Have a request that has reached the service answered. -/
def answer (name : String) : Act Response := step fun w =>
  let x := Channel.answerDirect w.remote name
  (x.outcome, { w.afterAll x.trace with remote := x.remote })

/-- Send a request to the service, and tell what comes back, if anything does. -/
def request (name : String) (params : Options) (w : World) :
    Option (Except Failure Response) × World :=
  match w.channel with
  | .direct =>
    let (reply, w) := answer name (w.after (.request name params))
    (some reply, w)
  | .overSocket path timeout =>
    let x := Channel.exchange path timeout w.remote name params
    (x.outcome.reply?, { w.afterAll x.trace with remote := x.remote })

/-- The working directory of the user. -/
def workingDirectory : Act FsPath := step fun w =>
  let (r, whereabouts) := w.whereabouts.workingDirectory w.host
  (r, { w with whereabouts })

/-- The active document of the user. -/
def document : Act (Option FsPath) := step fun w =>
  let (r, whereabouts) := w.whereabouts.document w.host
  (.ok r, { w with whereabouts })

/-- Find the project the user is in. -/
def locate : Act (Option Project) :=
  Project.locate workingDirectory document fun start =>
    traced fun w => Project.search w.host w.patterns start

/-- Judge the index of a registered project. -/
def assess (root index : FsPath) (stored : Option String) : Act Staleness :=
  traced fun w => Staleness.assess w.fingerprints w.host w.minSize root index stored

/-- Claim a key unless it is claimed; the reply tells whether it was free. -/
def enter (key : String) : Act Bool := step fun w =>
  if w.inFlight.contains key then (.ok false, w)
  else (.ok true, { w with inFlight := key :: w.inFlight })

/-- Give up the claim on a key. -/
def leave (key : String) : Act Unit := step fun w =>
  (.ok (), { w with inFlight := w.inFlight.erase key })

/-- Have the host do an action. -/
def perform (action : Action) (options : Options) : Act Value := step fun w =>
  let performance := (w.performances.lookup action).getD (.returns (.bool true))
  (performance.outcome, w.after (.call action.name options))

/-- Ask the host whether it can proceed; nothing means not yet. -/
def consult : Act (Option Value) := step fun w =>
  let w' := { w with consultations := w.consultations.rest }
  match w.consultations.next with
  | .raises text => (.error (.raised text), w'.after (.consulted (.error text)))
  | .returns .null => (.ok none, w'.after (.consulted (.ok .null)))
  | .returns v => (.ok (some v), w'.after (.consulted (.ok v)))

end World

end IndexSync
