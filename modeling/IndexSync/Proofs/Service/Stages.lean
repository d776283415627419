import IndexSync.Service
import Mathlib.Logic.Function.Iterate

/-!
# The stages of a call of the service handle

A call that is to have the service running looks at its surroundings several times, and they may
change between any two looks. Here a call is cut into the stages between which that can happen.

* `Service.Stage` — what a call does next;
* `Service.Vigil` — a handle in the middle of its calls, with the host it finds;
* `Service.Vigil.finished_call` — without interruption, the stages make up `Service.ensureStarted`.
-/

namespace IndexSync.Service

/-- What a call of a handle does next. -/
inductive Stage where
  /-- See whether anything is where the socket should be. -/
  | look
  /-- Try to connect to it. -/
  | connect
  /-- See whether the process that was started last is running. -/
  | inspect
  /-- See whether anything is in the way of a new socket. -/
  | lookAgain
  /-- Remove what is in the way. -/
  | clear
  /-- Start a process. -/
  | launch
  /-- Nothing: the call has ended. -/
  | ended (outcome : Except Failure Unit)

/-- What a stage leads to. -/
structure Progress where
  /-- The next stage. -/
  stage : Stage
  /-- What was done. -/
  trace : Trace
  /-- The handle afterwards. -/
  service : Service
  /-- The host afterwards. -/
  host : Host

/-- What an attempt to connect leaves in the trace. -/
def knocks (s : Service) : Trace :=
  [.socketTimeout (some Socket.probeTimeout), .socketConnect s.socket.text, .socketClose]

/-- Carry out a stage. -/
def Stage.run (s : Service) (h : Host) : Stage → Progress
  | .look =>
    match h.exists? s.socket with
    | .error e => ⟨.ended (.error e), [], s, h⟩
    | .ok true => ⟨.connect, [], s, h⟩
    | .ok false => ⟨.inspect, [], s, h⟩
  | .connect =>
    if h.accepts s.socket then
      let text := "Index service already listening on " ++ s.socket.text
      ⟨.ended (.ok ()), s.knocks ++ [logged .debug .service text], s, h⟩
    else ⟨.inspect, s.knocks, s, h⟩
  | .inspect =>
    if s.processAlive h then
      let text := "Index service process already spawned, waiting for socket"
      ⟨.ended (.ok ()), [logged .debug .service text], s, h⟩
    else ⟨.lookAgain, [], s, h⟩
  | .lookAgain =>
    match h.exists? s.socket with
    | .error e => ⟨.ended (.error e), [], s, h⟩
    | .ok true => ⟨.clear, [], s, h⟩
    | .ok false => ⟨.launch, [], s, h⟩
  | .clear =>
    match Socket.cleanUp h s.socket with
    | (.ok (), h) => ⟨.launch, [], s, h⟩
    | (.error e, h) => ⟨.ended (.error e), [], s, h⟩
  | .launch =>
    let start := s.launch h []
    ⟨.ended start.outcome, start.trace, start.service, start.host⟩
  | .ended r => ⟨.ended r, [], s, h⟩

/-- A stage that a call went through. -/
structure Deed where
  /-- The stage. -/
  stage : Stage
  /-- The host that it found. -/
  before : Host
  /-- The host that it left. -/
  after : Host

/-- A handle in the middle of its calls. -/
structure Vigil where
  /-- The host as it is. -/
  host : Host
  /-- The handle. -/
  service : Service
  /-- What it does next. -/
  stage : Stage := .ended (.ok ())
  /-- The handle as it was when its last call began. -/
  origin : Service := service
  /-- The stages that its last call went through. -/
  deeds : List Deed := []
  /-- What its last call has left in the trace. -/
  trace : Trace := []
  /-- The processes that it has started, oldest first. -/
  started : List Processes.Index := []

namespace Vigil

/-- The process that a stage starts. -/
def launched? (h : Host) : Stage → Option Processes.Index
  | .launch => h.processes.launch.1.toOption
  | _ => none

/-- Begin a call. -/
def call (v : Vigil) : Vigil :=
  { v with stage := .look, origin := v.service, deeds := [], trace := [] }

/-- Carry out the next stage of a call. -/
def act (v : Vigil) : Vigil :=
  match v.stage with
  | .ended _ => v
  | stage =>
    let p := stage.run v.service v.host
    { v with
      host := p.host
      service := p.service
      stage := p.stage
      deeds := v.deeds ++ [⟨stage, v.host, p.host⟩]
      trace := v.trace ++ p.trace
      started := v.started ++ (launched? v.host stage).toList }

theorem act_of_ended {v : Vigil} {r : Except Failure Unit} (h : v.stage = .ended r) :
    v.act = v := by
  rw [act, h]

theorem act_of_not_ended {v : Vigil} (h : ∀ r, v.stage ≠ .ended r) :
    v.act =
      { v with
        host := (v.stage.run v.service v.host).host
        service := (v.stage.run v.service v.host).service
        stage := (v.stage.run v.service v.host).stage
        deeds := v.deeds ++ [⟨v.stage, v.host, (v.stage.run v.service v.host).host⟩]
        trace := v.trace ++ (v.stage.run v.service v.host).trace
        started := v.started ++ (launched? v.host v.stage).toList } := by
  cases hstage : v.stage with
  | ended r => exact absurd hstage (h r)
  | _ => simp only [act, hstage]

/-- A call is over with the result of a start. -/
structure Finished (v : Vigil) (r : Start) : Prop where
  stage : v.stage = .ended r.outcome
  service : v.service = r.service
  host : v.host = r.host
  trace : v.trace = r.trace

section Uninterrupted

variable {v : Vigil} {r : Start}

/-- A call that is over stays so. -/
theorem Finished.act_iterate (h : Finished v r) (n : Nat) : Finished (act^[n] v) r := by
  have hfixed : act^[n] v = v := Function.iterate_fixed (act_of_ended h.stage) n
  rwa [hfixed]

/-- A start adds to the trace that it is given. -/
theorem launch_eq (s : Service) (h : Host) (trace : Trace) :
    s.launch h trace = { s.launch h [] with trace := trace ++ (s.launch h []).trace } := by
  unfold Service.launch
  rcases h.processes.launch with ⟨_ | _, _⟩ <;> simp

theorem finished_launch (h : v.stage = .launch) (n : Nat) :
    Finished (act^[n + 1] v) (v.service.launch v.host v.trace) := by
  rw [Function.iterate_succ_apply, act_of_not_ended (by simp [h]), launch_eq, h]
  exact Finished.act_iterate ⟨rfl, rfl, rfl, rfl⟩ n

/-- Remove what is in the way, then start the process of the service. -/
def replace (s : Service) (h : Host) (trace : Trace) : Start :=
  match Socket.cleanUp h s.socket with
  | (.ok (), h) => s.launch h trace
  | (.error e, h) => ⟨trace, .error e, s, h⟩

theorem relaunch_eq (s : Service) (h : Host) (trace : Trace) :
    s.relaunch h trace = match h.exists? s.socket with
      | .error e => ⟨trace, .error e, s, h⟩
      | .ok false => s.launch h trace
      | .ok true => replace s h trace := by
  rw [relaunch]
  rcases h.exists? s.socket with e | _ | _ <;> rfl

theorem finished_clear (h : v.stage = .clear) (n : Nat) :
    Finished (act^[n + 2] v) (replace v.service v.host v.trace) := by
  rw [Function.iterate_succ_apply, act_of_not_ended (by simp [h]), h, Stage.run, replace]
  rcases Socket.cleanUp v.host v.service.socket with ⟨e | _, host⟩
  · exact Finished.act_iterate ⟨rfl, rfl, rfl, List.append_nil _⟩ _
  · simpa using finished_launch rfl n

theorem finished_lookAgain (h : v.stage = .lookAgain) (n : Nat) :
    Finished (act^[n + 3] v) (v.service.relaunch v.host v.trace) := by
  rw [Function.iterate_succ_apply, act_of_not_ended (by simp [h]), h, relaunch_eq, Stage.run]
  rcases v.host.exists? v.service.socket with e | _ | _
  · exact Finished.act_iterate ⟨rfl, rfl, rfl, List.append_nil _⟩ _
  · simpa using finished_launch rfl (n + 1)
  · simpa using finished_clear rfl n

theorem finished_inspect (h : v.stage = .inspect) (n : Nat) :
    Finished (act^[n + 4] v)
      (if v.service.processAlive v.host then
        ⟨v.trace ++ [logged .debug .service
          "Index service process already spawned, waiting for socket"], .ok (), v.service, v.host⟩
      else v.service.relaunch v.host v.trace) := by
  rw [Function.iterate_succ_apply, act_of_not_ended (by simp [h]), h, Stage.run]
  split
  · exact Finished.act_iterate ⟨rfl, rfl, rfl, rfl⟩ _
  · simpa using finished_lookAgain rfl n

theorem isAlive_eq (h : Host) (s : Service) :
    Socket.isAlive h s.socket (some Socket.probeTimeout) = match h.exists? s.socket with
      | .error e => ⟨[], .error e⟩
      | .ok true => ⟨s.knocks, .ok (h.accepts s.socket)⟩
      | .ok false => ⟨[], .ok false⟩ := by
  rw [Socket.isAlive]
  rcases h.exists? s.socket with e | _ | _ <;> rfl

/-- A call that nothing interrupts has the service running in the way of the handle. -/
theorem finished_call (v : Vigil) : Finished (act^[6] v.call) (v.service.ensureStarted v.host) := by
  rw [Function.iterate_succ_apply, act_of_not_ended (by simp [call]), ensureStarted, isAlive_eq]
  simp only [call, Stage.run]
  -- The longest way takes all six stages; on shorter ones the last steps change nothing.
  rcases v.host.exists? v.service.socket with e | _ | _
  · exact Finished.act_iterate ⟨rfl, rfl, rfl, rfl⟩ _
  · exact finished_inspect rfl 1
  · rw [Function.iterate_succ_apply, act_of_not_ended (by simp)]
    simp only [Stage.run]
    cases v.host.accepts v.service.socket with
    | true => exact Finished.act_iterate ⟨rfl, rfl, rfl, rfl⟩ _
    | false => exact finished_inspect rfl 0

end Uninterrupted

end Vigil

end IndexSync.Service
