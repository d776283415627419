import IndexSync.Poll
import IndexSync.Proofs.Dialogue

/-!
# What a poller does

A run of a poller is known from how its probes are answered and how its calls of `resolve` end. Both
are given as sequences that never run dry: the probe of every attempt takes the next answer, and
every call, which only an answered probe leads to, the next end.

* `Poll.Prospect` — how probes are answered and calls go;
* `Prospect.attempts`, `Prospect.trace`, `Prospect.ending` — how many attempts a run makes, what it
  asks in which order, and how it ends;
* `Poll.loop_retries` — the attempts of a run are taken from its budget;
* `Poll.run_leads` — what one run does;
* `Poll.runs_leads` — what runs of one poller do, each with a budget of its own.
-/

namespace IndexSync.Poll

open Program

variable {α : Type} {resolve : Program (Option α)}

/-- A call of `resolve`. -/
structure Call (resolve : Program (Option α)) where
  /-- What it asks and is answered. -/
  dialogue : Dialogue
  /-- How it ends. -/
  outcome : Except Failure (Option α)
  /-- The dialogue is one of `resolve`. -/
  leads : resolve.Leads dialogue (.done outcome)

/-- How the probes of a poller are answered and how its calls of `resolve` go, in order. -/
structure Prospect (resolve : Program (Option α)) where
  /-- The answers to probes. -/
  probe : Nat → Except Failure Response
  /-- The calls. -/
  call : Nat → Call resolve

/-- The end of a call that is not "not yet". -/
def conclusion? : Except Failure (Option α) → Option (Except Failure α)
  | .ok none => none
  | .ok (some a) => some (.ok a)
  | .error e => some (.error e)

namespace Prospect

variable (f : Prospect resolve) (s : Settings) (pid : Nat)

/-- The service is reached at an attempt, counted from zero. -/
def answered (i : Nat) : Bool :=
  match f.probe i with
  | .ok r => r.ok
  | .error _ => false

/-- The number of calls before an attempt. -/
def callsBefore (i : Nat) : Nat := (List.range i).countP f.answered

/-- The call at an attempt that reaches the service. -/
def callAt (i : Nat) : Call resolve := f.call (f.callsBefore i)

/-- How the run ends at an attempt, if it does: the probe fails, or the call fails or has a
result. -/
def verdict? (i : Nat) : Option (Except Failure α) :=
  match f.probe i with
  | .error e => some (.error e)
  | .ok r => if r.ok then conclusion? (f.callAt i).outcome else none

/-- The first of a number of attempts at which the run ends, and how it ends there. -/
def first? (n : Nat) : Option (Nat × Except Failure α) :=
  (List.range n).findSome? fun i => (f.verdict? i).map (i, ·)

/-- The number of attempts that a run with a budget makes. -/
def attempts (n : Nat) : Nat :=
  match f.first? n with
  | some (i, _) => i + 1
  | none => n

/-- What is asked at an attempt: one probe and, if it is answered, one call. -/
def attempt (i : Nat) : Dialogue :=
  ⟨.request pingRequest [("process_id", .int pid)], f.probe i⟩ ::
    if f.answered i then (f.callAt i).dialogue else []

/-- The delay after an attempt. -/
def interval (i : Nat) : Int := if f.answered i then s.discoveryInterval else s.pingInterval

/-- The announcement of a further attempt. -/
def notice (n i : Nat) : Event :=
  logged .debug .poller
    ("Poll attempt " ++ toString (i + 1) ++ " did not complete, " ++ toString (n - (i + 1))
      ++ " left, retrying in " ++ toString (f.interval s i) ++ "ms")

/-- What is asked between an attempt and the next one: one wait, which is announced. -/
def respite (n i : Nat) : Dialogue :=
  [⟨.emit (f.notice s n i), .ok ()⟩, ⟨.wait (f.interval s i), .ok ()⟩]

/-- What is asked once the budget is spent. -/
def farewell (n : Nat) : Dialogue :=
  match f.first? n with
  | some _ => []
  | none =>
    [⟨.emit (logged .debug .poller
      ("Gave up reaching index service after " ++ toString n ++ " attempts")), .ok ()⟩]

/-- What a run with a budget asks and is answered: a wait, then its attempts, with a respite between
any two of them. -/
def trace (n : Nat) : Dialogue :=
  ⟨.wait s.warmup, .ok ()⟩ ::
    ((List.range (f.attempts n)).flatMap fun i =>
      f.attempt pid i ++ if i + 1 < f.attempts n then f.respite s n i else []) ++
    f.farewell n

/-- How a run with a budget ends, and the phase it leaves the poller in. -/
def ending (n : Nat) : Run α :=
  match f.first? n with
  | some (i, .ok a) => ⟨.connected, .ok (.connected (i + 1) a)⟩
  | some (_, .error e) => ⟨.polling, .error e⟩
  | none => ⟨.exhausted, .ok (.exhausted n)⟩

/-- What is left after a number of attempts. -/
def later (i : Nat) : Prospect resolve :=
  ⟨fun j => f.probe (i + j), fun k => f.call (f.callsBefore i + k)⟩

/-- What a number of runs ask and are answered, one after the other. -/
def traces (f : Prospect resolve) (n : Nat) : Nat → Dialogue
  | 0 => []
  | m + 1 => f.trace s pid n ++ (f.later (f.attempts n)).traces n m

/-- How a number of runs end. -/
def endings (f : Prospect resolve) (n : Nat) : Nat → List (Run α)
  | 0 => []
  | m + 1 => f.ending n :: (f.later (f.attempts n)).endings n m

section First

variable {f : Prospect resolve} {n i : Nat}

theorem first?_succ (f : Prospect resolve) (n : Nat) :
    f.first? (n + 1) = (f.first? n).or ((f.verdict? n).map (n, ·)) := by
  simp [first?, List.range_succ, List.findSome?_append]

/-- No attempt ends the run. -/
theorem verdict?_of_first?_eq_none (h : f.first? n = none) : ∀ j < n, f.verdict? j = none := by
  simpa [first?, List.findSome?_eq_none_iff] using h

/-- The attempt that ends the run is within the budget, and no earlier one ends it. -/
theorem verdict?_of_first?_eq_some {r : Except Failure α} (h : f.first? n = some (i, r)) :
    i < n ∧ f.verdict? i = some r ∧ ∀ j < i, f.verdict? j = none := by
  induction n with
  | zero => simp [first?] at h
  | succ n ih =>
    rw [first?_succ] at h
    cases hfirst : f.first? n with
    | some x =>
      rw [hfirst, Option.some_or] at h
      obtain ⟨hi, hrest⟩ := ih (hfirst.trans h)
      exact ⟨Nat.lt_succ_of_lt hi, hrest⟩
    | none =>
      rw [hfirst, Option.none_or, Option.map_eq_some_iff] at h
      obtain ⟨r', hr, heq⟩ := h
      obtain ⟨rfl, rfl⟩ := Prod.mk.inj heq
      exact ⟨Nat.lt_succ_self _, hr, verdict?_of_first?_eq_none hfirst⟩

end First

/-- How an attempt ends. -/
def tickEnd (i : Nat) : Except Failure (Bool × Option α) :=
  match f.verdict? i with
  | none => .ok (f.answered i, none)
  | some (.ok a) => .ok (true, some a)
  | some (.error e) => .error e

/-- An attempt is one probe and, if that is answered, one call. -/
theorem tick_leads (i : Nat) :
    (tick pid resolve).Leads (f.attempt pid i) (.done (f.tickEnd i)) := by
  -- The cases follow the attempt: a probe that fails, one with a bad answer, and one that is
  -- followed by the call.
  have hprobe : (Program.request pingRequest [("process_id", .int pid)]).Leads
      [⟨.request pingRequest [("process_id", .int pid)], f.probe i⟩] (.done (f.probe i)) :=
    leads_call _ fun h => absurd h (by simp [Ask.isPrompt])
  unfold tick ping
  cases hreply : f.probe i with
  | error e =>
    rw [hreply] at hprobe
    have hend : f.tickEnd i = .error e := by simp [tickEnd, verdict?, hreply]
    simp only [attempt, answered, hreply, hend, Bool.false_eq_true, if_false]
    exact (hprobe.bind _).bind _
  | ok r =>
    rw [hreply] at hprobe
    have hping := hprobe.bind_ok (f := fun r : Response => pure r.ok) (.here _)
    cases hok : r.ok with
    | false =>
      have hend : f.tickEnd i = .ok (false, none) := by
        simp [tickEnd, verdict?, answered, hreply, hok]
      simp only [attempt, answered, hreply, hok, hend, Bool.false_eq_true, if_false]
      rw [hok] at hping
      exact hping.bind_ok (.here _)
    | true =>
      rw [hok] at hping
      simp only [attempt, answered, hreply, hok, if_true]
      refine hping.bind_ok (u := (f.callAt i).dialogue) ?_
      rw [if_pos rfl]
      have hcall := (f.callAt i).leads.bind fun a => (pure (true, a) : Program (Bool × Option α))
      have hend : (.done (f.callAt i).outcome >>= fun a => pure (true, a)) =
          (.done (f.tickEnd i) : Program (Bool × Option α)) := by
        rcases houtcome : (f.callAt i).outcome with e | _ | a <;>
          simp [tickEnd, verdict?, conclusion?, answered, hreply, hok, houtcome] <;> rfl
      rwa [hend] at hcall

variable {f} {s} {n i : Nat}

theorem pause_leads (attempts left : Nat) (interval : Int) :
    (pause attempts left interval).Leads
      [⟨.emit (logged .debug .poller
          ("Poll attempt " ++ toString attempts ++ " did not complete, " ++ toString left
            ++ " left, retrying in " ++ toString interval ++ "ms")), .ok ()⟩,
        ⟨.wait interval, .ok ()⟩] (.done (.ok ())) :=
  (leads_call (.emit _) fun _ => ⟨(), rfl⟩).bind_ok (leads_call (.wait interval) fun _ => ⟨(), rfl⟩)

theorem giveUp_leads (attempts : Nat) :
    (giveUp attempts : Program (Outcome α)).Leads
      [⟨.emit (logged .debug .poller
        ("Gave up reaching index service after " ++ toString attempts ++ " attempts")), .ok ()⟩]
      (.done (.ok (.exhausted attempts))) :=
  (leads_call (.emit _) fun _ => ⟨(), rfl⟩).bind_ok (.here _)

/-- An attempt that does not end the run is followed by a respite and the next attempt. -/
theorem loop_leads_of_verdict?_eq_none (h : f.verdict? i = none) (hi : i + 1 < n) :
    (loop s pid resolve i (n - i)).Leads (f.attempt pid i ++ f.respite s n i)
      (loop s pid resolve (i + 1) (n - (i + 1))) := by
  have hleft : n - i = n - (i + 1) + 1 := by omega
  have hpos : n - (i + 1) ≠ 0 := by omega
  have htick := f.tick_leads pid i
  rw [tickEnd, h] at htick
  rw [hleft, loop]
  refine htick.bind_ok ?_
  simp only [hpos, if_false, respite]
  exact (pause_leads (i + 1) (n - (i + 1)) (f.interval s i)).bind_ok (.here _)

/-- The first attempts, none of which ends the run. -/
theorem loop_leads_of_forall_verdict?_eq_none (h : ∀ j < i, f.verdict? j = none) (hi : i < n) :
    (loop s pid resolve 0 n).Leads
      ((List.range i).flatMap fun j => f.attempt pid j ++ f.respite s n j)
      (loop s pid resolve i (n - i)) := by
  induction i with
  | zero => exact .here _
  | succ i ih =>
    have hbefore := ih (fun j hj => h j (Nat.lt_succ_of_lt hj)) (Nat.lt_of_succ_lt hi)
    have hlast := loop_leads_of_verdict?_eq_none pid (s := s) (h i (Nat.lt_succ_self i)) hi
    simpa [List.range_succ] using hbefore.trans hlast

/-- The attempt that ends the run. -/
theorem loop_leads_of_verdict?_eq_some {r : Except Failure α} (h : f.verdict? i = some r)
    (hi : i < n) :
    (loop s pid resolve i (n - i)).Leads (f.attempt pid i)
      (.done (r.map (.connected (i + 1)))) := by
  have hleft : n - i = n - (i + 1) + 1 := by omega
  have htick := f.tick_leads pid i
  rw [tickEnd, h] at htick
  rw [hleft, loop]
  cases r with
  | error e => exact htick.bind _
  | ok a => exact List.append_nil (f.attempt pid i) ▸ htick.bind_ok (.here _)

/-- The last attempt, if it does not end the run either. -/
theorem loop_leads_last (h : f.verdict? i = none) :
    (loop s pid resolve i 1).Leads (f.attempt pid i) (giveUp (i + 1)) := by
  have htick := f.tick_leads pid i
  rw [tickEnd, h] at htick
  rw [loop]
  simpa using htick.bind_ok (.here _)

/-- With respites between any two of a number of attempts. -/
theorem spaced_succ (i : Nat) :
    ((List.range (i + 1)).flatMap fun j =>
        f.attempt pid j ++ if j + 1 < i + 1 then f.respite s n j else []) =
      ((List.range i).flatMap fun j => f.attempt pid j ++ f.respite s n j) ++ f.attempt pid i := by
  have hbefore : ((List.range i).flatMap fun j =>
        f.attempt pid j ++ if j + 1 < i + 1 then f.respite s n j else []) =
      (List.range i).flatMap fun j => f.attempt pid j ++ f.respite s n j := by
    refine congrArg List.flatten (List.map_congr_left fun j hj => ?_)
    rw [if_pos (Nat.succ_lt_succ (List.mem_range.1 hj))]
  rw [List.range_succ, List.flatMap_append, hbefore]
  simp

/-- The attempts of a run. -/
theorem loop_leads (n : Nat) :
    (loop s pid resolve 0 n).Leads
      (((List.range (f.attempts n)).flatMap fun i =>
        f.attempt pid i ++ if i + 1 < f.attempts n then f.respite s n i else []) ++ f.farewell n)
      (.done (f.ending n).outcome) := by
  cases hfirst : f.first? n with
  | some x =>
    -- The attempts before the last one are followed by respites, the last one by nothing.
    obtain ⟨i, r⟩ := x
    obtain ⟨hi, hr, hbefore⟩ := verdict?_of_first?_eq_some hfirst
    have hrun := (loop_leads_of_forall_verdict?_eq_none pid (s := s) hbefore hi).trans
      (loop_leads_of_verdict?_eq_some pid hr hi)
    have hend : (f.ending n).outcome = r.map (.connected (i + 1)) := by
      cases r <;> simp [ending, hfirst, Except.map]
    simp only [attempts, farewell, hfirst, spaced_succ, hend, List.append_nil]
    exact hrun
  | none =>
    have hbefore := verdict?_of_first?_eq_none hfirst
    have hend : (f.ending n).outcome = .ok (.exhausted n) := by simp [ending, hfirst]
    simp only [attempts, farewell, hfirst, hend]
    cases n with
    | zero => exact giveUp_leads 0
    | succ i =>
      -- No attempt ends the run, and the last one has no respite after it.
      have hrun := loop_leads_of_forall_verdict?_eq_none pid (s := s)
        (fun j hj => hbefore j (Nat.lt_succ_of_lt hj)) (Nat.lt_succ_self i)
      have hleft : i + 1 - i = 1 := by omega
      rw [hleft] at hrun
      rw [spaced_succ]
      exact (hrun.trans (loop_leads_last pid (hbefore i (Nat.lt_succ_self i)))).trans
        (giveUp_leads (i + 1))

/-- The phase that a run leaves the poller in is told by the way it ends. -/
theorem ending_eq (f : Prospect resolve) (n : Nat) :
    f.ending n = match (f.ending n).outcome with
      | .ok outcome => ⟨outcome.phase, .ok outcome⟩
      | .error e => ⟨.polling, .error e⟩ := by
  rcases hfirst : f.first? n with _ | ⟨i, e | a⟩ <;> simp [ending, hfirst, Outcome.phase]

end Prospect

/-- A number of runs of one poller; each starts in the phase that the one before left. -/
def runs (s : Settings) (pid : Nat) (resolve : Program (Option α)) :
    Nat → Phase → Program (List (Run α))
  | 0, _ => return []
  | m + 1, before => do
    let r ← run s pid before resolve
    return r :: (← runs s pid resolve m r.phase)

variable {s : Settings}

/-- A loop spends a budget: every attempt is taken from it, it holds the delay before the next one,
and the loop gives up once nothing can be taken or nothing is left. -/
theorem loop_retries (s : Settings) (pid : Nat) (resolve : Program (Option α)) (attempts : Nat)
    (b : Budget) : loop s pid resolve attempts b.retries =
      (match b.take? with
      | none => giveUp attempts
      | some rest => do
        match ← tick pid resolve with
        | (_, some a) => return .connected (attempts + 1) a
        | (answered, none) =>
          let interval := if answered then s.discoveryInterval else s.pingInterval
          let next : Budget := { rest with interval }
          if next.exhausted then giveUp (attempts + 1)
          else
            pause (attempts + 1) next.retries next.interval
            loop s pid resolve (attempts + 1) next.retries) := by
  obtain ⟨retries, interval⟩ := b
  cases retries with
  | zero => rfl
  | succ left =>
    -- With `left` a numeral or a successor, both tests of what is left compute.
    cases left <;> rfl

/-- A budget is made of any number of attempts and any delay that is positive. -/
theorem make_eq_ok {retries interval : Int} (hretries : 0 ≤ retries) (hinterval : 0 < interval) :
    Budget.make retries interval = .ok ⟨retries.toNat, interval⟩ := by
  rw [Budget.make, if_neg (Int.not_lt.2 hretries), if_neg (Int.not_le.2 hinterval)]

/-- A run of a poller whose settings make a budget. -/
theorem run_leads (hwarmup : 0 < s.warmup) (hmax : 0 ≤ s.maxAttempts) (pid : Nat) (before : Phase)
    (f : Prospect resolve) :
    (run s pid before resolve).Leads (f.trace s pid s.maxAttempts.toNat)
      (.done (.ok (f.ending s.maxAttempts.toNat))) := by
  have hwait : (Program.wait s.warmup).Leads [⟨.wait s.warmup, .ok ()⟩] (.done (.ok ())) :=
    leads_call _ fun _ => ⟨(), rfl⟩
  have hwith := (hwait.bind_ok (f := fun _ => loop s pid resolve 0 s.maxAttempts.toNat)
    (f.loop_leads pid (s := s) s.maxAttempts.toNat)).attempt
  rw [run, make_eq_ok hmax hwarmup]
  refine List.append_nil (f.trace s pid s.maxAttempts.toNat) ▸ hwith.bind_ok ?_
  -- The phase is told by the outcome.
  have hphase := f.ending_eq s.maxAttempts.toNat
  cases houtcome : (f.ending s.maxAttempts.toNat).outcome with
  | _ =>
    rw [houtcome] at hphase
    rw [hphase]
    exact .here _

/-- What a number of runs of one poller do. -/
theorem runs_leads (hwarmup : 0 < s.warmup) (hmax : 0 ≤ s.maxAttempts) (pid m : Nat)
    (before : Phase) (f : Prospect resolve) :
    (runs s pid resolve m before).Leads (f.traces s pid s.maxAttempts.toNat m)
      (.done (.ok (f.endings s.maxAttempts.toNat m))) := by
  induction m generalizing before f with
  | zero => exact .here _
  | succ m ih =>
    refine (run_leads hwarmup hmax pid before f).bind_ok ?_
    exact List.append_nil (Prospect.traces s pid _ _ m) ▸ (ih _ _).bind_ok (.here _)

section Mixed

/-- A call of the host that ends in some way. -/
def consultation (r : Except Failure (Option Value)) : Call Program.consult :=
  ⟨[⟨.consult, r⟩], r, leads_call _ fun h => absurd h (by simp [Ask.isPrompt])⟩

/-- The first probe is not answered, the seventh fails, and all others are answered. The first call
comes too early, the second yields a value, and all later ones come too early again. -/
def mixed : Prospect Program.consult where
  probe
    | 0 => .ok { ok := false }
    | 6 => .error (.raised "connection lost")
    | _ => .ok { ok := true }
  call
    | 1 => consultation (.ok (some (.bool false)))
    | _ => consultation (.ok none)

/-- Three runs: one that has a result at its last attempt, one that spends its budget and one that
fails at its first attempt. -/
theorem runs_leads_mixed :
    (runs { maxAttempts := 3 } 4242 Program.consult 3 .idle).Leads
      (mixed.traces { maxAttempts := 3 } 4242 3 3)
      (.done (.ok [⟨.connected, .ok (.connected 3 (.bool false))⟩,
        ⟨.exhausted, .ok (.exhausted 3)⟩, ⟨.polling, .error (.raised "connection lost")⟩])) :=
  runs_leads (s := { maxAttempts := 3 }) (by decide) (by decide) 4242 3 .idle mixed

end Mixed

end IndexSync.Poll
