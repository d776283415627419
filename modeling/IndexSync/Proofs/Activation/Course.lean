import IndexSync.Proofs.Activation.Guard
import IndexSync.Proofs.Activation.Reconciliation

/-!
# The course of an activation

An activation probes the service until it can be reached and the project is found, then it asks for
the project list, and then it starts the tasks of one decision. Both numbers of requests are
bounded, and the status of the result tells how far it came.

* `Activation.Reached` — the service was reached and the project found;
* `Activation.CourseAsk` and `Activation.CourseEnd` — what is known when an activation asks
  something and when it ends;
* `Activation.course_ensures` — every activation takes this course.
-/

namespace IndexSync

open Program

/-- The project that was found by an answer. -/
def Answer.found? : Answer → Option Project
  | ⟨.locate, .ok (some project)⟩ => some project
  | _ => none

namespace Activation

variable {s : Setup} {project : Project} {options : Option Options} {t : Dialogue} {n : Nat}

/-- The service was reached by a probe, and the attempt to find the project that followed
succeeded. -/
def Reached (s : Setup) (t : Dialogue) : Prop :=
  ∃ (u v : Dialogue) (r : Response) (project : Project),
    t = u ++ ⟨probe s, .ok r⟩ :: ⟨.locate, .ok (some project)⟩ :: v ∧ r.ok = true

/-- A number of probes was made, and it was too early to go on. -/
structure Polled (s : Setup) (n : Nat) (t : Dialogue) : Prop where
  /-- Nothing else was asked. -/
  outside : Outside t
  /-- The number of probes. -/
  requests : t.requests = List.replicate n Poll.pingRequest
  /-- It was too early. -/
  early : ¬Reached s t

/-- The project was found right after the service was reached, which took a number of probes before
the successful one. -/
def Located (s : Setup) (n : Nat) (project : Project) (t : Dialogue) : Prop :=
  ∃ u r, t = u ++ [⟨probe s, .ok r⟩, ⟨.locate, .ok (some project)⟩] ∧ r.ok = true ∧
    Polled s n u ∧ n < probes s

/-- When an activation asks what. -/
structure CourseAsk (s : Setup) (t : Dialogue) (op : Ask) : Prop where
  /-- It pauses only before it starts tasks. -/
  pause : op.isPrompt = false → t.spawned = []
  /-- It probes the service as long as it has sent nothing else, and it asks for the project list
  once it has got through. Neither exceeds its budget. -/
  request : ∀ name, op.requestName? = some name →
    (name = Poll.pingRequest ∧ ∃ p < probes s,
      t.requests = List.replicate p Poll.pingRequest) ∨
    (name = Registry.listRequest ∧ Reached s t ∧ ∃ p l, 1 ≤ p ∧ p ≤ probes s ∧ l < listings s ∧
      t.requests = List.replicate p Poll.pingRequest ++ List.replicate l Registry.listRequest)
  /-- It starts tasks only once the list was given. -/
  spawn : ∀ name job, op = .spawn name job → ∃ records, Registry.Listed t records

/-- What a result tells about the dialogue that led to it, in which a number of probes was made and
the list was asked for a number of times. -/
def Concluded (s : Setup) (options : Option Options) (t : Dialogue) (p l : Nat)
    (result : Result) : Prop :=
  match result.status with
  | .exhausted => p = probes s ∧ l = 0 ∧ ¬Reached s t ∧ (∀ records, ¬Registry.Listed t records) ∧
      t.spawned = []
  | .alreadyInFlight => 1 ≤ p ∧ l = 0 ∧ Reached s t ∧ (∀ records, ¬Registry.Listed t records) ∧
      t.spawned = []
  | .registryUnavailable => 1 ≤ p ∧ l = listings s ∧ Reached s t ∧
      (∀ records, ¬Registry.Listed t records) ∧ t.spawned = []
  | .dispatched => 1 ≤ p ∧ 1 ≤ l ∧ Reached s t ∧ (∃ records, Registry.Listed t records) ∧
      ∃ project d, result = ⟨.dispatched, some project, some d⟩ ∧
        t.spawned.map Prod.snd = jobs s project options d

/-- An activation that fails has made a probe, unless it could not even wait for the first one. -/
def Faulted (s : Setup) (t : Dialogue) (p : Nat) (e : Failure) : Prop :=
  t.spawned = [] ∧ (1 ≤ p ∨ t = [⟨.wait s.config.polling.warmup, .error e⟩] ∨
    t = [] ∧ Budget.make s.config.polling.maxAttempts s.config.polling.warmup = .error e)

/-- How an activation ends. -/
def CourseEnd (s : Setup) (options : Option Options) (t : Dialogue) (r : Except Failure Result) :
    Prop :=
  ∃ p l, p ≤ probes s ∧ l ≤ listings s ∧
    t.requests = List.replicate p Poll.pingRequest ++ List.replicate l Registry.listRequest ∧
    match r with
    | .error e => Faulted s t p e
    | .ok result => Concluded s options t p l result

/-- The attempt to find the project comes last when an activation gets through. -/
theorem not_reached_snoc (h : ¬Reached s t) {a : Answer}
    (ha : a.found? = none) : ¬Reached s (t ++ [a]) := by
  rintro ⟨u, v, r, project, htu, hr⟩
  rcases snoc_eq_append_cons (htu.trans (List.append_cons ..)) with ⟨-, rfl, -⟩ | ⟨v, -, hold⟩
  · cases ha
  · rw [← List.append_cons] at hold
    exact h ⟨u, v, r, project, hold, hr⟩

theorem Polled.snoc_idle (h : Polled s n t) {a : Answer} (ha : a.op.isProbe = true)
    (hname : a.op.requestName? = none) (hfound : a.found? = none) : Polled s n (t ++ [a]) :=
  ⟨h.outside.snoc ha, by simp [h.requests, hname], not_reached_snoc h.early hfound⟩

theorem Polled.snoc_probe (h : Polled s n t) (reply : Except Failure Response) :
    Polled s (n + 1) (t ++ [⟨probe s, reply⟩]) := by
  refine ⟨h.outside.snoc (by simp [Ask.isProbe]), ?_, not_reached_snoc h.early rfl⟩
  simp [h.requests, Ask.requestName?, List.replicate_succ']

/-- Reaching the service does not bring the project list. -/
theorem Outside.not_listed (h : Outside t) (records : List Record) :
    ¬Registry.Listed t records := by
  refine Registry.not_listed_of_ne (fun a ha heq => ?_) records
  have hop := h a ha
  rw [heq] at hop
  exact absurd hop (by decide)

/-- A question that is answered on the spot is in place unless it starts a task. -/
theorem CourseAsk.of_prompt {op : Ask} (hop : op.isPrompt = true) (hname : op.requestName? = none)
    (hspawn : ∀ name job, op ≠ .spawn name job) : CourseAsk s t op := by
  refine ⟨fun hpause => ?_, fun name hrequest => ?_,
    fun name job heq => absurd heq (hspawn name job)⟩
  · rw [hop] at hpause
    cases hpause
  · rw [hname] at hrequest
    cases hrequest

theorem polled_nil : Polled s 0 [] := by
  refine ⟨outside_nil, rfl, ?_⟩
  rintro ⟨u, v, r, project, htu, -⟩
  simp at htu

/-- As long as it is too early, an activation may log, wait and look for the project. -/
theorem Polled.ask_idle (h : Polled s n t) {op : Ask} (hop : op.isProbe = true)
    (hname : op.requestName? = none) : CourseAsk s t op := by
  refine ⟨fun _ => h.outside.spawned, fun name hrequest => ?_, fun name job heq => ?_⟩
  · rw [hname] at hrequest
    cases hrequest
  · rw [heq] at hop
    cases hop

/-- As long as it is too early, an activation may probe the service within its budget. -/
theorem Polled.ask_probe (h : Polled s n t) (hn : n < probes s) : CourseAsk s t (probe s) := by
  refine ⟨fun _ => h.outside.spawned, fun name hrequest => ?_, fun name job heq => ?_⟩
  · obtain rfl := Option.some.inj hrequest
    exact Or.inl ⟨rfl, n, hn, h.requests⟩
  · cases heq

/-- An activation that fails once it has made a probe. -/
theorem Polled.faulted (h : Polled s n t) (hpos : 1 ≤ n) (hn : n ≤ probes s)
    (options : Option Options) (e : Failure) :
    CourseEnd s options t (.error e) :=
  ⟨n, 0, hn, Nat.zero_le _, by simp [h.requests], h.outside.spawned, Or.inl hpos⟩

/-- What is known once the project was found. -/
theorem Located.facts (h : Located s n project t) :
    Outside t ∧ t.requests = List.replicate (n + 1) Poll.pingRequest ∧ n + 1 ≤ probes s ∧
      ∀ v, Reached s (t ++ v) := by
  obtain ⟨u, r, rfl, hr, hu, hn⟩ := h
  refine ⟨?_, ?_, hn, fun v => ⟨u, v, r, project, by simp, hr⟩⟩
  · rw [List.append_cons]
    exact (hu.outside.snoc (by simp [Ask.isProbe])).snoc rfl
  · simp [hu.requests, Ask.requestName?, List.replicate_succ']

section Located

variable {free : Bool} {u : Dialogue}

/-- What is known while the project that was found is reconciled. -/
theorem Located.inside (h : Located s n project t) (free : Bool) (u : Dialogue) :
    let t' := t ++ ⟨.enter (s.key project), .ok free⟩ :: u
    t'.requests = List.replicate (n + 1) Poll.pingRequest ++ u.requests ∧ t'.spawned = u.spawned ∧
      Reached s t' ∧ ∀ records, Registry.Listed t' records ↔ Registry.Listed u records := by
  obtain ⟨houtside, hrequests, -, hreached⟩ := h.facts
  refine ⟨?_, ?_, hreached _, fun records => ?_⟩
  · simp [hrequests, Ask.requestName?]
  · simp [houtside.spawned, Answer.spawned?]
  · rw [Registry.listed_append, ← List.singleton_append, Registry.listed_append]
    have hentered : ¬Registry.Listed [⟨.enter (s.key project), .ok free⟩] records :=
      Registry.not_listed_of_ne (by simp) records
    simp [houtside.not_listed records, hentered]

/-- The questions of a reconciliation are in place in the activation. -/
theorem Located.ask (h : Located s n project t) {op : Ask} (hop : ReconcileAsk s u op) :
    CourseAsk s (t ++ ⟨.enter (s.key project), .ok true⟩ :: u) op := by
  obtain ⟨-, -, hn, -⟩ := h.facts
  obtain ⟨hrequests, hspawned, hreached, hlisted⟩ := h.inside true u
  refine ⟨fun hpause => ?_, fun name hname => ?_, fun name job heq => ?_⟩
  · rw [hspawned]
    exact hop.pause hpause
  · obtain ⟨rfl, l, hl, hqueried⟩ := hop.request name hname
    obtain rfl := Option.some.inj hname
    refine Or.inr ⟨rfl, hreached, n + 1, l, Nat.le_add_left 1 n, hn, hl, ?_⟩
    rw [hrequests, hqueried.requests]
  · obtain ⟨records, hrecords⟩ := hop.spawn name job heq
    exact ⟨records, (hlisted records).2 hrecords⟩

/-- A reconciliation that ends, ends the activation. -/
theorem Located.ended (h : Located s n project t) {r : Except Failure Result}
    (hr : ReconcileEnd s project options u r) :
    CourseEnd s options (t ++ ⟨.enter (s.key project), .ok true⟩ ::
      (u ++ [⟨.leave (s.key project), .ok ()⟩])) r := by
  have hleave : ∀ records, Registry.Listed (u ++ [⟨.leave (s.key project), .ok ()⟩]) records ↔
      Registry.Listed u records := by
    intro records
    rw [Registry.listed_append, or_iff_left]
    exact Registry.not_listed_of_ne (by simp) records
  obtain ⟨-, -, hn, -⟩ := h.facts
  -- To give up the claim sends no request and starts no task.
  obtain ⟨hrequests, hspawned, hreached, hlisted⟩ := h.inside true
    (u ++ [⟨.leave (s.key project), .ok ()⟩])
  have hquiet : Dialogue.requests (u ++ [⟨.leave (s.key project), .ok ()⟩]) = u.requests := by
    simp [Ask.requestName?]
  have hidle : Dialogue.spawned (u ++ [⟨.leave (s.key project), .ok ()⟩]) = u.spawned := by
    simp [Answer.spawned?]
  rw [hquiet] at hrequests
  rw [hidle] at hspawned
  have hpos : 1 ≤ n + 1 := Nat.le_add_left 1 n
  cases r with
  | error e =>
    obtain ⟨hnone, l, hl, hu⟩ := hr
    refine ⟨n + 1, l, hn, hl, ?_, ?_, Or.inl hpos⟩
    · rw [hrequests, hu]
    · rw [hspawned, hnone]
  | ok result =>
    rcases hr with ⟨hqueried, rfl⟩ | ⟨d, hdispatched, rfl⟩
    · refine ⟨n + 1, listings s, hn, Nat.le_refl _, ?_, hpos, rfl, hreached, fun records => ?_, ?_⟩
      · rw [hrequests, hqueried.requests]
      · rw [hlisted, hleave]
        exact hqueried.missed records
      · rw [hspawned, hqueried.spawned]
    · obtain ⟨l, hlpos, hl, hu⟩ := hdispatched.requests
      obtain ⟨records, hrecords⟩ := hdispatched.listed
      refine ⟨n + 1, l, hn, hl, ?_, hpos, hlpos, hreached, ⟨records, ?_⟩, project, d, rfl, ?_⟩
      · rw [hrequests, hu]
      · rw [hlisted, hleave]
        exact hrecords
      · rw [hspawned, hdispatched.spawned]

/-- A project that was found and is refused ends the activation. -/
theorem Located.refused (h : Located s n project t) (hu : Outside u) (hrequests : u.requests = []) :
    CourseEnd s options (t ++ ⟨.enter (s.key project), .ok false⟩ :: u)
      (.ok ⟨.alreadyInFlight, some project, none⟩) := by
  obtain ⟨-, -, hn, -⟩ := h.facts
  obtain ⟨hall, hspawned, hreached, hlisted⟩ := h.inside false u
  refine ⟨n + 1, 0, hn, Nat.zero_le _, ?_, Nat.le_add_left 1 n, rfl, hreached,
    fun records => ?_, ?_⟩
  · rw [hall, hrequests]
    rfl
  · rw [hlisted]
    exact hu.not_listed records
  · rw [hspawned, hu.spawned]

end Located

theorem course_guarded (h : Located s n project t) :
    (guarded s project options).Ensures (CourseAsk s) (CourseEnd s options) t := by
  refine Claiming.guarded
    { enter := .of_prompt rfl rfl (by simp)
      granted := ?_
      refused := fun _ => ⟨.of_prompt rfl rfl (by simp), ?_⟩ }
  · -- The reconciliation goes on from the dialogue that led to it.
    have hreconcile := (reconcile_ensures s project options).shift
      (t ++ [⟨.enter (s.key project), .ok true⟩])
    rw [List.append_nil] at hreconcile
    refine hreconcile.mono ?_ ?_
    · rintro _ op ⟨u, rfl, hop⟩
      rw [← List.append_cons]
      exact h.ask hop
    · rintro _ r ⟨u, rfl, hr⟩
      refine ⟨.of_prompt rfl rfl (by simp), ?_⟩
      rw [← List.append_cons, List.append_assoc, List.cons_append]
      exact h.ended hr
  · rw [← List.append_cons]
    exact h.refused (outside_nil.snoc rfl) rfl

/-- The service is reached: the search for the project fails, or there is none yet, or there is
one. -/
theorem course_resolve (hn : n < probes s) (h : Polled s n t) {r : Response} (hr : r.ok = true) :
    (resolve s options).Ensures (CourseAsk s) (Found (CourseEnd s options) (Polled s) (n + 1))
      (t ++ [⟨probe s, .ok r⟩]) := by
  have hprobed := h.snoc_probe (.ok r)
  refine Resolving.resolve
    { locate := hprobed.ask_idle rfl rfl
      lost := fun e => ?_
      early := fun _ => ?_
      found := fun project => ?_ }
  · have hlost := hprobed.snoc_idle (a := ⟨.locate, .error e⟩) rfl rfl rfl
    exact hlost.faulted (Nat.le_add_left 1 n) hn options e
  · have hearly := hprobed.snoc_idle (a := ⟨.locate, .ok none⟩) rfl rfl rfl
    exact ⟨hearly.ask_idle rfl rfl, hearly.snoc_idle rfl rfl rfl⟩
  · exact course_guarded ⟨t, r, by simp, hr, h, hn⟩

/-- Every activation takes its course. -/
theorem course_ensures (s : Setup) (options : Option Options) :
    (run s options).Ensures (CourseAsk s) (CourseEnd s options) [] := by
  refine Polling.run (I := fun n t => Polled s n t) ⟨?_, ?_, ?_, ?_, ?_, ?_, ?_, ?_, ?_⟩
  · -- The settings of polling are refused.
    exact fun e he => ⟨0, 0, Nat.zero_le _, Nat.zero_le _, rfl, rfl, Or.inr (Or.inr ⟨rfl, he⟩)⟩
  · -- The service is given time.
    refine ⟨polled_nil.ask_idle rfl rfl, fun reply => ?_⟩
    cases reply with
    | error e => exact ⟨0, 0, Nat.zero_le _, Nat.zero_le _, rfl, rfl, Or.inr (Or.inl rfl)⟩
    | ok _ => exact polled_nil.snoc_idle (a := ⟨.wait _, .ok ()⟩) rfl rfl rfl
  · -- Something is logged.
    exact fun n t e ht => ⟨ht.ask_idle rfl rfl, ht.snoc_idle rfl rfl rfl⟩
  · -- The next probe is waited for.
    intro n t ms hpos hn ht
    refine ⟨ht.ask_idle rfl rfl, fun reply => ?_⟩
    have hwait : Polled s n (t ++ [⟨.wait ms, reply⟩]) := ht.snoc_idle rfl rfl rfl
    cases reply with
    | error e => exact hwait.faulted hpos (Nat.le_of_lt hn) options e
    | ok _ => exact hwait
  · -- The service is probed: the probe fails, or the service is not reached, or it is.
    exact fun n t hn ht => ht.ask_probe hn
  · exact fun n t e hn ht => (ht.snoc_probe _).faulted (Nat.le_add_left 1 n) hn options e
  · exact fun n t r hn ht _ => ht.snoc_probe _
  · exact fun n t r hn ht hr => course_resolve hn ht hr
  · -- The budget is spent, and it was always too early.
    intro t ht
    refine ⟨probes s, 0, Nat.le_refl _, Nat.zero_le _, ?_, rfl, rfl, ht.early, ?_, ?_⟩
    · rw [ht.requests]
      simp
    · exact ht.outside.not_listed
    · exact ht.outside.spawned

/-- The wait before the first probe succeeded, or the activation failed with it; settings that
leave nothing to wait for are refused. -/
def Warmed (s : Setup) (t : Dialogue) (r : Except Failure Result) : Prop :=
  (∃ u, t = ⟨.wait s.config.polling.warmup, .ok ()⟩ :: u) ∨
    (∃ e, r = .error e ∧ t = [⟨.wait s.config.polling.warmup, .error e⟩]) ∨
    ∃ e, Budget.make s.config.polling.maxAttempts s.config.polling.warmup = .error e

/-- Every activation waits before its first probe. -/
theorem warmed_ensures (s : Setup) (options : Option Options) :
    (run s options).Ensures (fun _ _ => True) (Warmed s) [] := by
  -- Once the wait has succeeded, that stays the first answer.
  have hkeep : ∀ {t : Dialogue} (v : Dialogue),
      (∃ u, t = ⟨.wait s.config.polling.warmup, .ok ()⟩ :: u) →
      ∃ u, t ++ v = ⟨.wait s.config.polling.warmup, .ok ()⟩ :: u := by
    rintro _ v ⟨u, rfl⟩
    exact ⟨u ++ v, rfl⟩
  refine Polling.run (I := fun _ t => ∃ u, t = ⟨.wait s.config.polling.warmup, .ok ()⟩ :: u)
    ⟨?_, ?_, ?_, ?_, ?_, ?_, ?_, ?_, ?_⟩
  · exact fun e he => Or.inr (Or.inr ⟨e, he⟩)
  · refine ⟨trivial, fun reply => ?_⟩
    cases reply with
    | error e => exact Or.inr (Or.inl ⟨e, rfl, rfl⟩)
    | ok _ => exact ⟨[], rfl⟩
  · exact fun n t e ht => ⟨trivial, hkeep _ ht⟩
  · intro n t ms _ _ ht
    refine ⟨trivial, fun reply => ?_⟩
    cases reply with
    | error e => exact Or.inl (hkeep _ ht)
    | ok _ => exact hkeep _ ht
  · exact fun n t _ _ => trivial
  · exact fun n t e _ ht => Or.inl (hkeep _ ht)
  · exact fun n t r _ ht _ => hkeep _ ht
  · intro n t r _ ht _
    refine (ensures_leads _ _).mono (fun _ _ _ => trivial) ?_
    -- Whatever follows a probe is added to the end of the dialogue.
    rintro _ (e | _ | result) ⟨u, rfl, -⟩
    · exact Or.inl (hkeep _ (hkeep _ ht))
    · exact hkeep _ (hkeep _ ht)
    · exact Or.inl (hkeep _ (hkeep _ ht))
  · exact fun t ht => Or.inl ht

section Status

variable {result : Result} {p l : Nat}

/-- An activation ends as exhausted if it did not get through. -/
theorem Concluded.exhausted_iff (h : Concluded s options t p l result) :
    result.status = .exhausted ↔ ¬Reached s t := by
  rw [Concluded] at h
  split at h
  · next hstatus => exact iff_of_true hstatus h.2.2.1
  · next hstatus => exact iff_of_false (by simp [hstatus]) (not_not_intro h.2.2.1)
  · next hstatus => exact iff_of_false (by simp [hstatus]) (not_not_intro h.2.2.1)
  · next hstatus => exact iff_of_false (by simp [hstatus]) (not_not_intro h.2.2.1)

/-- An activation ends as dispatched if it was given the project list. -/
theorem Concluded.dispatched_iff (h : Concluded s options t p l result) :
    result.status = .dispatched ↔ ∃ records, Registry.Listed t records := by
  rw [Concluded] at h
  split at h
  · next hstatus => exact iff_of_false (by simp [hstatus]) (not_exists.2 h.2.2.2.1)
  · next hstatus => exact iff_of_false (by simp [hstatus]) (not_exists.2 h.2.2.2.1)
  · next hstatus => exact iff_of_false (by simp [hstatus]) (not_exists.2 h.2.2.2.1)
  · next hstatus => exact iff_of_true hstatus h.2.2.2.1

/-- An activation finds the registry unavailable if it has spent its budget of requests for the
project list in vain. -/
theorem Concluded.registryUnavailable_iff (h : Concluded s options t p l result)
    (hpos : 1 ≤ listings s) :
    result.status = .registryUnavailable ↔
      l = listings s ∧ ∀ records, ¬Registry.Listed t records := by
  rw [Concluded] at h
  split at h
  · next hstatus => exact iff_of_false (by simp [hstatus]) fun hl => by omega
  · next hstatus => exact iff_of_false (by simp [hstatus]) fun hl => by omega
  · next hstatus => exact iff_of_true hstatus ⟨h.2.1, h.2.2.2.1⟩
  · next hstatus =>
    obtain ⟨records, hrecords⟩ := h.2.2.2.1
    exact iff_of_false (by simp [hstatus]) fun hl => hl.2 records hrecords

/-- An activation that ends with a result has made a probe, if it can make one at all. -/
theorem Concluded.one_le (h : Concluded s options t p l result) (hpos : 1 ≤ probes s) : 1 ≤ p := by
  rw [Concluded] at h
  split at h
  · rw [h.1]
    exact hpos
  · exact h.1
  · exact h.1
  · exact h.1

end Status

end Activation

end IndexSync
