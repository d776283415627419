import IndexSync.Proofs.Service.OneProcess
import IndexSync.Proofs.Storage.Probing

/-!
# Calls of the service handle that fail

Whatever the disk, the socket and the processes are like, and whatever became of the process that
was started last, a call that is to have the service running comes to an end. A socket that refuses
connections, one that cannot be removed and a process that cannot be started are no failures. The
only one is that nobody can tell whether there is a socket, and then nothing has happened.

* `Service.Remembers` — a handle changes only by remembering a process that was started;
* `Service.ensureStarted_of_exists` — a call succeeds if its socket can be probed;
* `Service.call_contained` — when a call fails, and what it leaves.
-/

namespace IndexSync

namespace Socket

/-- What is in the way is removed or left, and neither is a failure. -/
theorem cleanUp_eq_ok (h : Host) {p : FsPath} (hp : NullFree p.text) :
    (cleanUp h p).1 = .ok () := by
  unfold cleanUp
  cases hunlink : h.unlink p with
  | ok h' => rfl
  | error e =>
    obtain ⟨errno, file, rfl⟩ := Host.isSystem_of_guarded hp hunlink
    rfl

end Socket

namespace Service

variable {s : Service} {h : Host}

/-- A start leaves the handle and the processes as they were, or it has started a process, which the
handle remembers. -/
def Remembers (s : Service) (h : Host) (r : Start) : Prop :=
  (r.service = s ∧ r.host.processes.exits = h.processes.exits) ∨
    ∃ i, h.processes.launch.1 = .ok i ∧ r.service = { s with process := some i } ∧
      r.host.processes = h.processes.launch.2

/-- A start that is refused adds no process. -/
theorem exits_of_launch_error {ps : Processes} {errno : Errno}
    (hlaunch : ps.launch.1 = .error errno) :
    ps.launch.2.exits = ps.exits := by
  unfold Processes.launch at hlaunch ⊢
  rcases htake : ps.script.take with ⟨_ | code | _, script⟩ <;> rw [htake] at hlaunch
  · cases hlaunch
  · cases hlaunch

/-- To start a process is no failure, be it that the start is refused. -/
theorem launch_remembers {h₀ : Host} (hprocesses : h₀.processes = h.processes) (trace : Trace) :
    (s.launch h₀ trace).outcome = .ok () ∧ Remembers s h (s.launch h₀ trace) := by
  rw [Vigil.launch_eq]
  cases hlaunch : h₀.processes.launch.1 with
  | ok i =>
    obtain ⟨hservice, hhost, houtcome⟩ := launch_eq_of_ok (s := s) hlaunch
    refine ⟨houtcome, Or.inr ⟨i, hprocesses ▸ hlaunch, hservice, ?_⟩⟩
    rw [hhost, ← hprocesses]
  | error errno =>
    obtain ⟨hservice, hhost, houtcome⟩ := launch_eq_of_error (s := s) hlaunch
    refine ⟨houtcome, Or.inl ⟨hservice, ?_⟩⟩
    rw [hhost, ← hprocesses]
    exact exits_of_launch_error hlaunch

/-- Where the socket can be probed, a process is started, whatever is in the way. -/
theorem relaunch_of_exists {there : Bool} (hexists : h.exists? s.socket = .ok there)
    (trace : Trace) :
    ∃ h₀ : Host, h₀.processes = h.processes ∧ s.relaunch h trace = s.launch h₀ trace := by
  rw [Vigil.relaunch_eq, hexists]
  cases there with
  | false => exact ⟨h, rfl, rfl⟩
  | true =>
    have hok := Socket.cleanUp_eq_ok h (Host.nullFree_of_probe hexists)
    have hprocesses := cleanUp_processes h s.socket
    dsimp only
    rw [Vigil.replace]
    generalize Socket.cleanUp h s.socket = cleared at hok hprocesses
    obtain ⟨outcome, h₀⟩ := cleared
    obtain rfl : outcome = .ok () := hok
    exact ⟨h₀, hprocesses, rfl⟩

/-- Where the socket can be probed, a call succeeds. -/
theorem ensureStarted_of_exists {there : Bool} (hexists : h.exists? s.socket = .ok there) :
    (s.ensureStarted h).outcome = .ok () ∧ Remembers s h (s.ensureStarted h) := by
  have hidle : ∀ trace, Remembers s h ⟨trace, .ok (), s, h⟩ := fun _ => Or.inl ⟨rfl, rfl⟩
  have hstart : ∀ trace, (s.relaunch h trace).outcome = .ok () ∧
      Remembers s h (s.relaunch h trace) := by
    intro trace
    obtain ⟨h₀, hprocesses, heq⟩ := relaunch_of_exists hexists trace
    rw [heq]
    exact launch_remembers hprocesses trace
  rw [ensureStarted, Vigil.isAlive_eq, hexists]
  cases there with
  | false =>
    dsimp only
    split
    · exact ⟨rfl, hidle _⟩
    · exact hstart _
  | true =>
    dsimp only
    split
    · next hoops => cases hoops
    · exact ⟨rfl, hidle _⟩
    · split
      · exact ⟨rfl, hidle _⟩
      · exact hstart _

/-- How a call can fail, and what it leaves. -/
structure Contained (s : Service) (h : Host) (r : Start) : Prop where
  /-- It fails exactly if it cannot be told whether something is where the socket should be, and
  with the error of that probe. -/
  fails_iff : ∀ e, r.outcome = .error e ↔
    ∃ errno, h.Obscured s.socket errno ∧ e = .system errno (some s.socket.text)
  /-- If it fails, it has done nothing. -/
  idle : ∀ e, r.outcome = .error e → r = ⟨[], .error e, s, h⟩
  /-- The process that is remembered is another one only if that was started. -/
  remembers : Remembers s h r

/-- A call that is to have the service running succeeds unless its socket cannot be probed. The
handle may have any history and the host be in any state. -/
theorem call_contained (s : Service) (h : Host) : Contained s h (s.ensureStarted h) := by
  cases hexists : h.exists? s.socket with
  | ok there =>
    obtain ⟨hok, hremembers⟩ := ensureStarted_of_exists hexists
    have hprobed : ∀ e, h.exists? s.socket ≠ .error e := fun e => by
      rw [hexists]
      nofun
    refine ⟨fun e => ?_, fun e herror => ?_, hremembers⟩
    · rw [hok]
      exact iff_of_false nofun fun hobscured => hprobed e (Host.exists?_eq_error.2 hobscured)
    · rw [hok] at herror
      cases herror
  | error e =>
    have hfailed : s.ensureStarted h = ⟨[], .error e, s, h⟩ := by
      rw [ensureStarted, Vigil.isAlive_eq, hexists]
    rw [hfailed]
    refine ⟨fun e' => ?_, fun e' herror => ?_, Or.inl ⟨rfl, rfl⟩⟩
    · rw [← Host.exists?_eq_error, hexists, Except.error.injEq, Except.error.injEq]
    · rw [Except.error.inj herror]

end Service

end IndexSync
