import IndexSync.Proofs.Service.Stages
import IndexSync.Proofs.Validation

/-!
# One service process at a time

The only thing a handle remembers is the process it started last, while sockets and processes come
and go by themselves. Still a handle never has two processes running: it starts one only after it
has seen the last one gone, and what is gone does not come back.

* `Service.Vigil.Step` — a call begins, a call goes through a stage, or the surroundings change;
* `Service.Vigil.Kept` — what holds of the processes at every moment;
* `Service.Course` — the ways a call can go;
* `Service.Conducted` — what the calls of a handle do to the socket and to the handle;
* `Service.Vigil.Reachable.sound` — one process at a time, and all calls so conducted.
-/

namespace IndexSync

namespace Processes

/-- A process has ended. -/
def Exited (ps : Processes) (i : Index) : Prop := ∃ code, ps.exits[i]? = some (some code)

/-- Time passes for processes: further ones may have been started, and those that had ended
remain so. -/
structure Ages (ps ps' : Processes) : Prop where
  length_le : ps.exits.length ≤ ps'.exits.length
  exited : ∀ (i : Index) (code : Int),
    ps.exits[i]? = some (some code) → ps'.exits[i]? = some (some code)

variable {ps ps' : Processes} {i : Index}

theorem Ages.refl (ps : Processes) : ps.Ages ps := ⟨Nat.le_refl _, fun _ _ h => h⟩

theorem Exited.ages (h : ps.Exited i) (hages : ps.Ages ps') : ps'.Exited i :=
  h.imp fun code hcode => hages.exited i code hcode

theorem Exited.not_isRunning (h : ps.Exited i) : ps.isRunning i = false := by
  obtain ⟨code, hcode⟩ := h
  simp [isRunning, hcode]

/-- A process that was started and is not running has ended. -/
theorem exited_of_not_isRunning (hi : i < ps.exits.length) (h : ps.isRunning i = false) :
    ps.Exited i := by
  rw [isRunning, List.getElem?_eq_getElem hi] at h
  cases hexit : ps.exits[i] with
  | none => simp [hexit] at h
  | some code => exact ⟨code, by rw [List.getElem?_eq_getElem hi, hexit]⟩

/-- To start a process changes nothing about those that were started before. -/
theorem launch_ages (ps : Processes) : ps.Ages ps.launch.2 := by
  have happend : ∀ script exit, ps.Ages ⟨script, ps.exits ++ [exit]⟩ := fun script exit =>
    ⟨by simp, fun i code h => by
      rw [List.getElem?_append_left (List.getElem?_eq_some_iff.1 h).1]
      exact h⟩
  unfold launch
  rcases ps.script.take with ⟨_ | code | errno, script⟩
  · exact happend _ _
  · exact happend _ _
  · exact ⟨Nat.le_refl _, fun _ _ h => h⟩

/-- A new process comes after all others. -/
theorem launch_eq_ok (h : ps.launch.1 = .ok i) :
    i = ps.exits.length ∧ i < ps.launch.2.exits.length := by
  unfold launch at h ⊢
  rcases htake : ps.script.take with ⟨_ | code | errno, script⟩ <;> rw [htake] at h
  · cases h
    simp
  · cases h
    simp
  · cases h

end Processes

namespace Service

/-- The process that was started last has ended, if there is one. -/
def Gone (s : Service) (h : Host) : Prop := ∀ i, s.process = some i → h.processes.Exited i

namespace Vigil

/-- What can happen next. -/
inductive Step : Vigil → Vigil → Prop where
  /-- The surroundings change in any way, except that what has ended remains so. -/
  | change {v : Vigil} {h : Host} :
      v.host.processes.Ages h.processes → Step v { v with host := h }
  /-- A call begins. -/
  | call {v : Vigil} {r : Except Failure Unit} : v.stage = .ended r → Step v v.call
  /-- A call goes through a stage. -/
  | act {v : Vigil} : (∀ r, v.stage ≠ .ended r) → Step v v.act

/-- What becomes of a handle that was made on a host. -/
inductive Reachable : Vigil → Prop where
  | made (h : Host) (command : List String) (socket : FsPath) :
      Reachable { host := h, service := { command, socket } }
  | step {v v' : Vigil} : Reachable v → Step v v' → Reachable v'

end Vigil

/-- No process is running when a call is at this stage. -/
def Stage.isStarting : Stage → Bool
  | .lookAgain => true
  | .clear => true
  | .launch => true
  | _ => false

theorem unlink_processes {h h' : Host} {p : FsPath} (hunlink : h.unlink p = .ok h') :
    h'.processes = h.processes := by
  unfold Host.unlink Host.guarded at hunlink
  split at hunlink
  · cases hunlink
  · split at hunlink
    · cases hunlink
    · cases hlocate : h.locate .inspect p with
      | error errno => simp [hlocate, bind, Except.bind, Host.deny] at hunlink
      | ok found =>
        simp only [hlocate, bind, Except.bind] at hunlink
        cases hdir : found.2.isDir with
        | true => simp [hdir, throw, throwThe, MonadExceptOf.throw, Host.deny] at hunlink
        | false =>
          simp only [hdir, Bool.false_eq_true, if_false, pure, Except.pure] at hunlink
          rw [← Except.ok.inj hunlink]

/-- To remove a socket does nothing to processes. -/
theorem cleanUp_processes (h : Host) (p : FsPath) :
    (Socket.cleanUp h p).2.processes = h.processes := by
  unfold Socket.cleanUp
  cases hunlink : h.unlink p with
  | ok h' => exact unlink_processes hunlink
  | error e => cases e <;> rfl

section Run

variable {s : Service} {h : Host} {stage : Stage}

/-- Only the last stage starts a process and changes the handle. -/
theorem run_of_ne_launch (hstage : stage ≠ .launch) :
    (stage.run s h).service = s ∧ (stage.run s h).host.processes = h.processes := by
  cases stage with
  | look => rw [Stage.run]; split <;> exact ⟨rfl, rfl⟩
  | connect => rw [Stage.run]; split <;> exact ⟨rfl, rfl⟩
  | inspect => rw [Stage.run]; split <;> exact ⟨rfl, rfl⟩
  | lookAgain => rw [Stage.run]; split <;> exact ⟨rfl, rfl⟩
  | clear =>
    have hprocesses := cleanUp_processes h s.socket
    rw [Stage.run]
    generalize Socket.cleanUp h s.socket = cleared at hprocesses
    rcases cleared with ⟨_ | _, _⟩ <;> exact ⟨rfl, hprocesses⟩
  | launch => exact absurd rfl hstage
  | ended r => exact ⟨rfl, rfl⟩

/-- A process that starts is remembered. -/
theorem launch_eq_of_ok {i : Processes.Index} (hi : h.processes.launch.1 = .ok i) :
    (s.launch h []).service = { s with process := some i } ∧
      (s.launch h []).host = { h with processes := h.processes.launch.2 } ∧
      (s.launch h []).outcome = .ok () := by
  unfold Service.launch
  generalize h.processes.launch = x at hi
  rcases x with ⟨_ | _, _⟩ <;> cases hi
  exact ⟨rfl, rfl, rfl⟩

/-- If no process starts, the handle is as before. -/
theorem launch_eq_of_error {errno : Errno} (herror : h.processes.launch.1 = .error errno) :
    (s.launch h []).service = s ∧
      (s.launch h []).host = { h with processes := h.processes.launch.2 } ∧
      (s.launch h []).outcome = .ok () := by
  unfold Service.launch
  generalize h.processes.launch = x at herror
  rcases x with ⟨_ | _, _⟩ <;> cases herror
  exact ⟨rfl, rfl, rfl⟩

/-- A call goes on to start a process only if it has seen that none is running. -/
theorem isStarting_of_run (hnext : (stage.run s h).stage.isStarting = true) :
    stage.isStarting = true ∨ stage = .inspect ∧ s.processAlive h = false := by
  cases stage with
  | look => rw [Stage.run] at hnext; split at hnext <;> cases hnext
  | connect => rw [Stage.run] at hnext; split at hnext <;> cases hnext
  | inspect =>
    rw [Stage.run] at hnext
    split at hnext
    · cases hnext
    · next halive => exact .inr ⟨rfl, Bool.eq_false_iff.2 halive⟩
  | ended r => cases hnext
  | _ => exact .inl rfl

end Run

/-- A process that was started last and has been seen not to run has ended. -/
theorem gone_of_not_processAlive {s : Service} {h : Host} (halive : s.processAlive h = false)
    (hknown : ∀ i, s.process = some i → i < h.processes.exits.length) : s.Gone h := by
  intro i hi
  rw [processAlive, hi] at halive
  exact Processes.exited_of_not_isRunning (hknown i hi) halive

namespace Vigil

/-- What holds of the processes of a handle at every moment. -/
structure Kept (v : Vigil) : Prop where
  /-- The host knows the processes that the handle has started. -/
  known : ∀ i ∈ v.started, i < v.host.processes.exits.length
  /-- The handle remembers the last of them. -/
  remembered : v.service.process = v.started.getLast?
  /-- All others have ended. -/
  exited : ∀ i ∈ v.started.dropLast, v.host.processes.Exited i
  /-- Where a process is about to be started, all have ended. -/
  clear : v.stage.isStarting = true → ∀ i ∈ v.started, v.host.processes.Exited i

namespace Kept

variable {v : Vigil}

/-- The surroundings can change. -/
theorem change (hv : v.Kept) {h : Host} (hages : v.host.processes.Ages h.processes) :
    Kept { v with host := h } where
  known i hi := Nat.lt_of_lt_of_le (hv.known i hi) hages.length_le
  remembered := hv.remembered
  exited i hi := (hv.exited i hi).ages hages
  clear hstage i hi := (hv.clear hstage i hi).ages hages

/-- A process that was started last and is not running has ended. -/
theorem gone (hv : v.Kept) (halive : v.service.processAlive v.host = false) :
    v.service.Gone v.host := by
  refine gone_of_not_processAlive halive fun i hi => hv.known i ?_
  rw [hv.remembered] at hi
  exact List.mem_of_getLast? hi

/-- If the process that was started last has ended, all have. -/
theorem exited_of_gone (hv : v.Kept) (hgone : v.service.Gone v.host) :
    ∀ i ∈ v.started, v.host.processes.Exited i := by
  intro i hi
  cases hlast : v.started.getLast? with
  | none => simp [List.getLast?_eq_none_iff.1 hlast] at hi
  | some last =>
    obtain ⟨before, hbefore⟩ := List.getLast?_eq_some_iff.1 hlast
    rw [hbefore, List.mem_append, List.mem_singleton] at hi
    -- Whatever is not the last one has ended long since.
    rcases hi with hi | rfl
    · exact hv.exited i (by simpa [hbefore] using hi)
    · exact hgone i (hv.remembered.trans hlast)

/-- A call can go through a stage that starts nothing. -/
theorem act_of_ne_launch (hv : v.Kept) (hstage : ∀ r, v.stage ≠ .ended r)
    (hlaunch : v.stage ≠ .launch) : v.act.Kept := by
  obtain ⟨hservice, hprocesses⟩ := run_of_ne_launch (s := v.service) (h := v.host) hlaunch
  have hnone : launched? v.host v.stage = none := by
    cases hv : v.stage <;> first | rfl | exact absurd hv hlaunch
  rw [act_of_not_ended hstage, hnone, Option.toList_none, List.append_nil]
  refine ⟨?_, ?_, ?_, ?_⟩
  · simpa only [hprocesses] using hv.known
  · simpa only [hservice] using hv.remembered
  · simpa only [hprocesses] using hv.exited
  · intro hnext
    rw [hprocesses]
    -- The next stage is one of those before a start only if this one is, or if it saw the last
    -- process gone.
    rcases isStarting_of_run hnext with hstarting | ⟨-, halive⟩
    · exact hv.clear hstarting
    · exact hv.exited_of_gone (hv.gone halive)

/-- A call can start a process. -/
theorem act_of_launch (hv : v.Kept) (hstage : v.stage = .launch) : v.act.Kept := by
  have hages := v.host.processes.launch_ages
  -- All processes of the handle have ended by now, so it can remember one only, the new one.
  have hclear := hv.clear (by rw [hstage]; rfl)
  rw [act_of_not_ended (by simp [hstage]), hstage, launched?]
  simp only [Stage.run]
  cases hlaunch : v.host.processes.launch.1 with
  | error errno =>
    obtain ⟨hservice, hhost, -⟩ := launch_eq_of_error (s := v.service) hlaunch
    rw [hservice, hhost]
    refine ⟨?_, ?_, ?_, fun hstarting => by cases hstarting⟩
    · intro j hj
      exact Nat.lt_of_lt_of_le (hv.known j (by simpa [Except.toOption] using hj)) hages.length_le
    · simpa [Except.toOption] using hv.remembered
    · intro j hj
      exact (hv.exited j (by simpa [Except.toOption] using hj)).ages hages
  | ok i =>
    obtain ⟨hservice, hhost, -⟩ := launch_eq_of_ok (s := v.service) hlaunch
    obtain ⟨-, hi⟩ := Processes.launch_eq_ok hlaunch
    rw [hservice, hhost]
    refine ⟨?_, List.getLast?_concat.symm, ?_, fun hstarting => by cases hstarting⟩
    · intro j hj
      rcases List.mem_append.1 hj with hj | hj
      · exact Nat.lt_of_lt_of_le (hv.known j hj) hages.length_le
      · obtain rfl := List.mem_singleton.1 hj
        exact hi
    · intro j hj
      have hbefore : j ∈ (v.started ++ [i]).dropLast := hj
      rw [List.dropLast_concat] at hbefore
      exact (hclear j hbefore).ages hages

/-- A call can go through a stage. -/
theorem act (hv : v.Kept) (hstage : ∀ r, v.stage ≠ .ended r) : v.act.Kept := by
  by_cases hlaunch : v.stage = .launch
  · exact hv.act_of_launch hlaunch
  · exact hv.act_of_ne_launch hstage hlaunch

end Kept

theorem Reachable.kept {v : Vigil} (h : v.Reachable) : v.Kept := by
  induction h with
  | made h command socket => exact ⟨nofun, rfl, nofun, nofun⟩
  | step _ hstep ih =>
    cases hstep with
    | change hages => exact ih.change hages
    | call _ => exact ⟨ih.known, ih.remembered, ih.exited, nofun⟩
    | act hstage => exact ih.act hstage

/-- At most one process of a handle is running. -/
theorem Kept.single {v : Vigil} (hv : v.Kept) :
    (v.started.filter v.host.processes.isRunning).length ≤ 1 := by
  rcases List.eq_nil_or_concat v.started with hnil | ⟨before, last, hconcat⟩
  · simp [hnil]
  · rw [List.concat_eq_append] at hconcat
    have hended : before.filter v.host.processes.isRunning = [] := by
      refine List.filter_eq_nil_iff.2 fun i hi => ?_
      simp [(hv.exited i (by simpa [hconcat] using hi)).not_isRunning]
    rw [hconcat, List.filter_append, hended, List.nil_append]
    exact List.length_filter_le _ [last]

end Vigil

/-! ### The ways a call can go -/

/-- A stage that changes nothing. -/
def Deed.idle (stage : Stage) (h : Host) : Deed := ⟨stage, h, h⟩

@[simp] theorem Deed.idle_stage (stage : Stage) (h : Host) : (idle stage h).stage = stage := rfl

@[simp] theorem Deed.idle_before (stage : Stage) (h : Host) : (idle stage h).before = h := rfl

@[simp] theorem Deed.idle_after (stage : Stage) (h : Host) : (idle stage h).after = h := rfl

/-- The stages of a probe that nobody accepts. -/
inductive Unanswered (s : Service) : List Deed → Prop where
  | absent {h : Host} : h.exists? s.socket = .ok false → Unanswered s [.idle .look h]
  | refused {h h' : Host} : h.exists? s.socket = .ok true → h'.accepts s.socket = false →
      Unanswered s [.idle .look h, .idle .connect h']

/-- The stages that make room for a new socket. -/
inductive Vacated (s : Service) : List Deed → Prop where
  | empty {h : Host} : h.exists? s.socket = .ok false → Vacated s [.idle .lookAgain h]
  | cleared {h h' : Host} : h.exists? s.socket = .ok true →
      Vacated s [.idle .lookAgain h, ⟨.clear, h', (Socket.cleanUp h' s.socket).2⟩]

/-- The stages that a call of a handle goes through, up to one that is still ahead, and what the
handle is by then. -/
inductive Course (s : Service) : List Deed → Stage → Service → Prop where
  /-- No call was made. -/
  | unused : Course s [] (.ended (.ok ())) s
  | look : Course s [] .look s
  | connect {h : Host} : h.exists? s.socket = .ok true → Course s [.idle .look h] .connect s
  | inspect {probe : List Deed} : Unanswered s probe → Course s probe .inspect s
  | lookAgain {probe : List Deed} {h : Host} : Unanswered s probe → s.Gone h →
      Course s (probe ++ [.idle .inspect h]) .lookAgain s
  | clear {probe : List Deed} {h h' : Host} : Unanswered s probe → s.Gone h →
      h'.exists? s.socket = .ok true →
      Course s (probe ++ [.idle .inspect h, .idle .lookAgain h']) .clear s
  | launch {probe room : List Deed} {h : Host} : Unanswered s probe → s.Gone h → Vacated s room →
      Course s (probe ++ .idle .inspect h :: room) .launch s
  /-- The service accepts connections. -/
  | answered {h h' : Host} : h.exists? s.socket = .ok true → h'.accepts s.socket = true →
      Course s [.idle .look h, .idle .connect h'] (.ended (.ok ())) s
  /-- The process that was started last is running. -/
  | awaited {probe : List Deed} {h : Host} : Unanswered s probe → s.processAlive h = true →
      Course s (probe ++ [.idle .inspect h]) (.ended (.ok ())) s
  /-- A process was started, or could not be. -/
  | launched {probe room : List Deed} {h h' : Host} : Unanswered s probe → s.Gone h →
      Vacated s room →
      Course s (probe ++ .idle .inspect h :: (room ++ [⟨.launch, h', (s.launch h' []).host⟩]))
        (.ended (.ok ())) (s.launch h' []).service
  /-- The call failed. -/
  | failed (deeds : List Deed) (e : Failure) : Course s deeds (.ended (.error e)) s

/-- A call goes on in one of these ways. -/
theorem Course.act {v : Vigil} (h : Course v.origin v.deeds v.stage v.service) (hv : v.Kept)
    (hstage : ∀ r, v.stage ≠ .ended r) :
    Course v.act.origin v.act.deeds v.act.stage v.act.service := by
  rw [Vigil.act_of_not_ended hstage]
  obtain ⟨host, s, stage, origin, deeds, trace, started⟩ := v
  dsimp only at h hstage ⊢
  -- A stage adds what it saw; what was seen at an earlier one may be out of date by now.
  cases h with
  | unused => exact absurd rfl (hstage _)
  | answered => exact absurd rfl (hstage _)
  | awaited => exact absurd rfl (hstage _)
  | launched => exact absurd rfl (hstage _)
  | failed => exact absurd rfl (hstage _)
  | look =>
    cases hthere : host.exists? s.socket with
    | error e =>
      simp only [Stage.run, hthere]
      exact .failed _ e
    | ok there =>
      cases there with
      | true =>
        simp only [Stage.run, hthere]
        exact .connect hthere
      | false =>
        simp only [Stage.run, hthere]
        exact .inspect (.absent hthere)
  | connect hthere =>
    cases haccepts : host.accepts s.socket with
    | true =>
      simp only [Stage.run, haccepts, if_true]
      exact .answered hthere haccepts
    | false =>
      simp only [Stage.run, haccepts, Bool.false_eq_true, if_false]
      exact .inspect (.refused hthere haccepts)
  | inspect hprobe =>
    cases halive : s.processAlive host with
    | true =>
      simp only [Stage.run, halive, if_true]
      exact .awaited hprobe halive
    | false =>
      simp only [Stage.run, halive, Bool.false_eq_true, if_false]
      exact .lookAgain hprobe (hv.gone halive)
  | lookAgain hprobe hgone =>
    rw [List.append_assoc]
    cases hthere : host.exists? s.socket with
    | error e =>
      simp only [Stage.run, hthere]
      exact .failed _ e
    | ok there =>
      cases there with
      | true =>
        simp only [Stage.run, hthere]
        exact .clear hprobe hgone hthere
      | false =>
        simp only [Stage.run, hthere]
        exact .launch hprobe hgone (.empty hthere)
  | clear hprobe hgone hthere =>
    rw [List.append_assoc]
    have hvacated : Vacated s [_, ⟨.clear, host, (Socket.cleanUp host s.socket).2⟩] :=
      .cleared hthere
    simp only [Stage.run]
    generalize Socket.cleanUp host s.socket = cleared at hvacated
    rcases cleared with ⟨e | _, h'⟩
    · exact .failed _ e
    · exact .launch hprobe hgone hvacated
  | launch hprobe hgone hroom =>
    have hended : (s.launch host []).outcome = .ok () := by
      cases hlaunch : host.processes.launch.1 with
      | error errno => exact (launch_eq_of_error hlaunch).2.2
      | ok i => exact (launch_eq_of_ok hlaunch).2.2
    rw [List.append_assoc]
    simp only [Stage.run, hended]
    exact .launched hprobe hgone hroom

theorem Vigil.Reachable.course {v : Vigil} (h : v.Reachable) :
    Course v.origin v.deeds v.stage v.service := by
  induction h with
  | made h command socket => exact .unused
  | step hreach hstep ih =>
    cases hstep with
    | change _ => exact ih
    | call _ => exact .look
    | act hstage => exact ih.act hreach.kept hstage

/-! ### What calls do -/

/-- Somebody accepted the connection of a call. -/
def Accepted (s : Service) (deeds : List Deed) : Prop :=
  ∃ d ∈ deeds, d.stage = .connect ∧ d.before.accepts s.socket = true

/-- A call saw that the process that was started last had ended, or that there was none. -/
def SeenGone (s : Service) (deeds : List Deed) : Prop :=
  ∃ d ∈ deeds, d.stage = .inspect ∧ s.Gone d.before

/-- What a call of a handle `s` that leaves the handle `s'` does. -/
structure Conducted (s : Service) (deeds : List Deed) (s' : Service) : Prop where
  /-- The start of a process is tried if and only if nobody accepted the connection and the last
  process was gone. -/
  starts : (∃ d ∈ deeds, d.stage = .launch) ↔ ¬Accepted s deeds ∧ SeenGone s deeds
  /-- What is at the place of the socket is removed only if something was seen there, and then
  the start of a process is tried. -/
  clears : ∀ d ∈ deeds, d.stage = .clear →
    ∃ before seen start, deeds = before ++ [seen, d, start] ∧
      seen.stage = .lookAgain ∧ seen.before.exists? s.socket = .ok true ∧ start.stage = .launch
  /-- Nothing else changes the disk. -/
  disk : ∀ d ∈ deeds, d.stage ≠ .clear → d.after.disk = d.before.disk
  /-- If somebody accepted the connection, nothing changes at all. -/
  accepted : Accepted s deeds → (∀ d ∈ deeds, d.after = d.before) ∧ s' = s
  /-- A process that was started is remembered. -/
  started : ∀ d ∈ deeds, d.stage = .launch → ∀ i, d.before.processes.launch.1 = .ok i →
    s' = { s with process := some i }
  /-- If no process could be started, the handle is as before. -/
  failed : ∀ d ∈ deeds, d.stage = .launch → ∀ errno, d.before.processes.launch.1 = .error errno →
    s' = s

section Conducted

variable {s s' : Service} {deeds : List Deed}

/-- A probe that nobody accepts. -/
theorem Unanswered.deed {probe : List Deed} (h : Unanswered s probe) {d : Deed} (hd : d ∈ probe) :
    (d.stage = .look ∨ d.stage = .connect ∧ d.before.accepts s.socket = false) ∧
      d.after = d.before := by
  cases h with
  | absent _ =>
    obtain rfl := List.mem_singleton.1 hd
    exact ⟨.inl rfl, rfl⟩
  | refused _ haccepts =>
    simp only [List.mem_cons, List.not_mem_nil, or_false] at hd
    rcases hd with rfl | rfl
    · exact ⟨.inl rfl, rfl⟩
    · exact ⟨.inr ⟨rfl, haccepts⟩, rfl⟩

theorem Unanswered.not_accepted {probe rest : List Deed} (h : Unanswered s probe)
    (hrest : ∀ d ∈ rest, d.stage ≠ .connect) : ¬Accepted s (probe ++ rest) := by
  rintro ⟨d, hd, hconnect, haccepts⟩
  rcases List.mem_append.1 hd with hd | hd
  · rcases (h.deed hd).1 with hlook | ⟨-, hrefused⟩
    · cases hlook.symm.trans hconnect
    · cases haccepts.symm.trans hrefused
  · exact hrest d hd hconnect

/-- What making room for a socket consists of. -/
theorem Vacated.deed {room : List Deed} (h : Vacated s room) {d : Deed} (hd : d ∈ room) :
    (d.stage = .lookAgain ∧ d.after = d.before) ∨ d.stage = .clear := by
  cases h with
  | empty _ =>
    obtain rfl := List.mem_singleton.1 hd
    exact .inl ⟨rfl, rfl⟩
  | cleared _ =>
    simp only [List.mem_cons, List.not_mem_nil, or_false] at hd
    rcases hd with rfl | rfl
    · exact .inl ⟨rfl, rfl⟩
    · exact .inr rfl

/-- A process that has ended is not running. -/
theorem Gone.not_processAlive {h : Host} (hgone : s.Gone h) : s.processAlive h = false := by
  rw [processAlive]
  cases hprocess : s.process with
  | none => rfl
  | some i => exact (hgone i hprocess).not_isRunning

/-- A call to a service that is listening. -/
theorem conducted_answered {h h' : Host} (haccepts : h'.accepts s.socket = true) :
    Conducted s [.idle .look h, .idle .connect h'] s where
  starts := by
    have haccepted : Accepted s [.idle .look h, .idle .connect h'] :=
      ⟨.idle .connect h', by simp, rfl, haccepts⟩
    simp [haccepted]
  clears := by simp
  disk := by simp
  accepted _ := by simp
  started := by simp
  failed := by simp

/-- A call while the process that was started last is running. -/
theorem conducted_awaited {probe : List Deed} {h : Host} (hprobe : Unanswered s probe)
    (halive : s.processAlive h = true) : Conducted s (probe ++ [.idle .inspect h]) s := by
  have hdeed : ∀ d ∈ probe ++ [Deed.idle .inspect h],
      (d.stage = .look ∨ d.stage = .connect ∨ d.stage = .inspect ∧ d.before = h) ∧
        d.after = d.before := by
    intro d hd
    rcases List.mem_append.1 hd with hd | hd
    · obtain ⟨hlook | ⟨hconnect, -⟩, hafter⟩ := hprobe.deed hd
      · exact ⟨.inl hlook, hafter⟩
      · exact ⟨.inr (.inl hconnect), hafter⟩
    · obtain rfl := List.mem_singleton.1 hd
      exact ⟨.inr (.inr ⟨rfl, rfl⟩), rfl⟩
  have hstart : ∀ d ∈ probe ++ [Deed.idle .inspect h], d.stage ≠ .launch ∧ d.stage ≠ .clear := by
    intro d hd
    obtain ⟨hstage | hstage | ⟨hstage, -⟩, -⟩ := hdeed d hd <;> simp [hstage]
  refine ⟨⟨?_, ?_⟩, ?_, ?_, ?_, ?_, ?_⟩
  · rintro ⟨d, hd, hlaunch⟩
    exact absurd hlaunch (hstart d hd).1
  · rintro ⟨-, d, hd, hinspect, hgone⟩
    obtain ⟨hlook | hconnect | ⟨-, hbefore⟩, -⟩ := hdeed d hd
    · cases hlook.symm.trans hinspect
    · cases hconnect.symm.trans hinspect
    · -- The last process was seen running.
      have hdead := hgone.not_processAlive
      rw [hbefore, halive] at hdead
      cases hdead
  · exact fun d hd hclear => absurd hclear (hstart d hd).2
  · exact fun d hd _ => congrArg Host.disk (hdeed d hd).2
  · exact fun _ => ⟨fun d hd => (hdeed d hd).2, rfl⟩
  · exact fun d hd hlaunch => absurd hlaunch (hstart d hd).1
  · exact fun d hd hlaunch => absurd hlaunch (hstart d hd).1

/-- An attempt to start a process leaves the disk alone. -/
theorem launch_disk (s : Service) (h : Host) : (s.launch h []).host.disk = h.disk := by
  cases hlaunch : h.processes.launch.1 with
  | error errno => rw [(launch_eq_of_error hlaunch).2.1]
  | ok i => rw [(launch_eq_of_ok hlaunch).2.1]

/-- What is removed to make room for a socket was seen just before. -/
theorem Vacated.seen_of_clear {room : List Deed} (h : Vacated s room) {d : Deed} (hd : d ∈ room)
    (hclear : d.stage = .clear) :
    ∃ seen, room = [seen, d] ∧ seen.stage = .lookAgain ∧
      seen.before.exists? s.socket = .ok true := by
  cases h with
  | empty _ =>
    obtain rfl := List.mem_singleton.1 hd
    cases hclear
  | @cleared before _ hthere =>
    simp only [List.mem_cons, List.not_mem_nil, or_false] at hd
    rcases hd with rfl | rfl
    · cases hclear
    · exact ⟨.idle .lookAgain before, rfl, rfl, hthere⟩

section Launched

variable {probe room : List Deed} {h : Host} {last : Deed}

/-- The stages of a call that gets as far as its last one: most change nothing, one may make room,
and then there is the last. -/
theorem deed_of_launched (hprobe : Unanswered s probe) (hroom : Vacated s room) {d : Deed}
    (hd : d ∈ probe ++ .idle .inspect h :: (room ++ [last])) :
    (d.stage ≠ .launch ∧ d.stage ≠ .clear ∧ d.after = d.before) ∨
      (d ∈ room ∧ d.stage = .clear) ∨ d = last := by
  simp only [List.mem_cons, List.mem_append, List.not_mem_nil, or_false] at hd
  rcases hd with hd | rfl | hd | rfl
  · obtain ⟨hlook | ⟨hconnect, -⟩, hafter⟩ := hprobe.deed hd
    · exact .inl (by simp [hlook, hafter])
    · exact .inl (by simp [hconnect, hafter])
  · exact .inl (by simp)
  · rcases hroom.deed hd with ⟨hlook, hafter⟩ | hclear
    · exact .inl (by simp [hlook, hafter])
    · exact .inr (.inl ⟨hd, hclear⟩)
  · exact .inr (.inr rfl)

/-- Nobody has accepted the connection of a call that gets as far as its last stage. -/
theorem not_accepted_of_launched (hprobe : Unanswered s probe) (hroom : Vacated s room)
    (hlast : last.stage = .launch) :
    ¬Accepted s (probe ++ .idle .inspect h :: (room ++ [last])) := by
  refine hprobe.not_accepted fun d hd hconnect => ?_
  simp only [List.mem_cons, List.mem_append, List.not_mem_nil, or_false] at hd
  rcases hd with rfl | hd | rfl
  · cases hconnect
  · rcases hroom.deed hd with ⟨hlook, -⟩ | hclear
    · cases hlook.symm.trans hconnect
    · cases hclear.symm.trans hconnect
  · cases hlast.symm.trans hconnect

end Launched

/-- A call that tries to start a process. -/
theorem conducted_launched {probe room : List Deed} {h h' : Host} (hprobe : Unanswered s probe)
    (hgone : s.Gone h) (hroom : Vacated s room) :
    Conducted s (probe ++ .idle .inspect h :: (room ++ [⟨.launch, h', (s.launch h' []).host⟩]))
      (s.launch h' []).service := by
  generalize hlast : (⟨.launch, h', (s.launch h' []).host⟩ : Deed) = last
  have hstage : last.stage = .launch := hlast ▸ rfl
  have hrefused := not_accepted_of_launched (h := h) hprobe hroom hstage
  have hdeed := fun d (hd : d ∈ probe ++ .idle .inspect h :: (room ++ [last])) =>
    deed_of_launched hprobe hroom hd
  -- Only the last stage starts anything.
  have heq : ∀ d ∈ probe ++ .idle .inspect h :: (room ++ [last]), d.stage = .launch →
      d.before = h' := by
    intro d hd hlaunch
    rcases hdeed d hd with ⟨hne, -⟩ | ⟨-, hclear⟩ | rfl
    · exact absurd hlaunch hne
    · cases hclear.symm.trans hlaunch
    · rw [← hlast]
  refine ⟨⟨fun _ => ⟨hrefused, .idle .inspect h, by simp, rfl, hgone⟩,
    fun _ => ⟨last, by simp, hstage⟩⟩, ?_, ?_, ?_, ?_, ?_⟩
  · intro d hd hclear
    rcases hdeed d hd with ⟨-, hne, -⟩ | ⟨hd, -⟩ | rfl
    · exact absurd hclear hne
    · obtain ⟨seen, rfl, hlook, hthere⟩ := hroom.seen_of_clear hd hclear
      exact ⟨probe ++ [.idle .inspect h], seen, last, by simp, hlook, hthere, hstage⟩
    · cases hstage.symm.trans hclear
  · intro d hd hne
    rcases hdeed d hd with ⟨-, -, hafter⟩ | ⟨-, hclear⟩ | rfl
    · rw [hafter]
    · exact absurd hclear hne
    · rw [← hlast]
      exact launch_disk s h'
  · exact fun haccepted => absurd haccepted hrefused
  · intro d hd hlaunch i hi
    rw [heq d hd hlaunch] at hi
    exact (launch_eq_of_ok hi).1
  · intro d hd hlaunch errno herror
    rw [heq d hd hlaunch] at herror
    exact (launch_eq_of_error herror).1

/-- A call that ends normally is conducted so. -/
theorem Course.conducted (h : Course s deeds (.ended (.ok ())) s') : Conducted s deeds s' := by
  generalize hended : Stage.ended (.ok ()) = stage at h
  cases h with
  | unused => exact ⟨by simp [Accepted, SeenGone], by simp, by simp, by simp, by simp, by simp⟩
  | answered _ haccepts => exact conducted_answered haccepts
  | awaited hprobe halive => exact conducted_awaited hprobe halive
  | launched hprobe hgone hroom => exact conducted_launched hprobe hgone hroom
  | _ => cases hended

end Conducted

/-- One process at a time, and calls that do what they should. -/
structure Vigil.Sound (v : Vigil) : Prop where
  /-- At most one of the processes that were started is running. -/
  single : (v.started.filter v.host.processes.isRunning).length ≤ 1
  /-- The process that was started last is remembered. -/
  remembered : v.service.process = v.started.getLast?
  /-- A call that has just ended normally did what it should. -/
  conducted : v.stage = .ended (.ok ()) → Conducted v.origin v.deeds v.service
  /-- The next call, if nothing interrupts it, ends like a call of the handle. -/
  uninterrupted : Vigil.Finished (Vigil.act^[6] v.call) (v.service.ensureStarted v.host)

/-- Whatever happens around a handle, at most one process that it has started is running at any
moment, and its calls do what they should. -/
theorem Vigil.Reachable.sound {v : Vigil} (h : v.Reachable) : v.Sound where
  single := h.kept.single
  remembered := h.kept.remembered
  conducted hended := (hended ▸ h.course).conducted
  uninterrupted := v.finished_call

namespace Vigil

/-- Calls can go on. -/
theorem Reachable.act_iterate {v : Vigil} (h : v.Reachable) (n : Nat) :
    (Vigil.act^[n] v).Reachable := by
  induction n generalizing v with
  | zero => exact h
  | succ n ih =>
    rw [Function.iterate_succ_apply]
    refine ih ?_
    cases hstage : v.stage with
    | ended r => rwa [act_of_ended hstage]
    | _ => exact h.step (.act (by simp [hstage]))

/-- A handle that has started a process. -/
def employed : Vigil :=
  Vigil.act^[6]
    (call { host := .bare, service := { command := ["svc"], socket := ⟨.root, ["s"]⟩ } })

/-- The process has ended and left a socket behind that nobody listens at. -/
def bereft : Vigil :=
  { employed with
    host := { employed.host with
      disk := ⟨[(["s"], .socket .stale 0o600)]⟩
      processes := employed.host.processes.endLast 1 } }

/-- The socket is removed and a second process is started. -/
theorem sound_bereft :
    (Vigil.act^[6] bereft.call).Reachable ∧ (Vigil.act^[6] bereft.call).Sound ∧
      (Vigil.act^[6] bereft.call).started = [0, 1] := by
  have hemployed : employed.Reachable :=
    ((Reachable.made .bare ["svc"] ⟨.root, ["s"]⟩).step (.call rfl)).act_iterate 6
  have hexits : employed.host.processes.exits = [none] := rfl
  have hages : employed.host.processes.Ages (employed.host.processes.endLast 1) := by
    refine ⟨Nat.le_refl 1, fun i code h => ?_⟩
    rw [hexits] at h
    cases i <;> simp at h
  have hbereft : bereft.Reachable := hemployed.step (.change hages)
  have hended : bereft.stage = .ended (.ok ()) := rfl
  have hreach := (hbereft.step (.call hended)).act_iterate 6
  exact ⟨hreach, hreach.sound, rfl⟩

end Vigil

end Service

end IndexSync
