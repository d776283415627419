import IndexSync.Activation.Jobs
import IndexSync.Proofs.Dialogue

/-!
# Rules for the parts of an activation

What has to be shown for each loop of an activation so that it ensures something of its dialogue.
A loop is given an invariant in the number of attempts made; the single things that happen in it are
then checked from any dialogue that fulfils the invariant. The rules come in two forms. The finer
one has an invariant for dialogues that are ready for the next attempt and another one for those
that have just missed; the coarser one has the same for both.

* `Registry.Rounds` and `Registry.Querying` — asking for the project list, with a budget of
  requests;
* `Activation.Claiming` and `Activation.Resolving` — claiming a project and looking for it, which
  are no loops;
* `Activation.Rounds` and `Activation.Polling` — polling, with a budget of probes, and thereby an
  activation as a whole.
-/

namespace IndexSync

open Program

namespace Registry

variable {Q : Dialogue → Ask → Prop} {R : Dialogue → Except Failure (Option (List Record)) → Prop}
  {interval : Int}

/-- The question for the project list. -/
abbrev listing : Ask := .request listRequest []

/-- What a dialogue may look like while the project list is asked for, by the number of requests
made: `J` where the next one is due, `I` where the last one has missed. -/
structure Rounds (Q : Dialogue → Ask → Prop)
    (R : Dialogue → Except Failure (Option (List Record)) → Prop) (I J : Nat → Dialogue → Prop)
    (interval : Int) (total : Nat) : Prop where
  /-- Something is logged. -/
  emit : ∀ n t e, I n t → Q t (.emit e) ∧ I n (t ++ [⟨.emit e, .ok ()⟩])
  /-- The next request is waited for. -/
  wait : ∀ n t, 1 ≤ n → n < total → I n t → Q t (.wait interval) ∧
    ∀ reply : Except Failure Unit, Passing R (fun _ => J n) (t ++ [⟨.wait interval, reply⟩]) reply
  /-- The list is asked for. -/
  ask : ∀ n t, n < total → J n t → Q t listing
  /-- The request fails in a way that is not contained. -/
  lost : ∀ n t e, n < total → J n t → R (t ++ [⟨listing, .error e⟩]) (.error e)
  /-- The list is given. -/
  given : ∀ n t (r : Response) records, n < total → J n t →
    Listing.ofResponse r = .records records →
    R (t ++ [⟨listing, .ok r⟩]) (.ok (some records))
  /-- The list is not given. -/
  missed : ∀ n t (r : Response), n < total → J n t →
    (∀ records, Listing.ofResponse r ≠ .records records) → I (n + 1) (t ++ [⟨listing, .ok r⟩])
  /-- There is no budget. -/
  barred : total = 0 → ∀ t, J 0 t → I 0 t
  /-- The budget is spent. -/
  spent : ∀ t, I total t → R t (.ok none)

/-- What a dialogue may look like while the project list is asked for, by the number of requests
made: `I` survives all that does not end the query. -/
structure Querying (Q : Dialogue → Ask → Prop)
    (R : Dialogue → Except Failure (Option (List Record)) → Prop) (I : Nat → Dialogue → Prop)
    (interval : Int) (total : Nat) : Prop where
  /-- Something is logged. -/
  emit : ∀ n t e, I n t → Q t (.emit e) ∧ I n (t ++ [⟨.emit e, .ok ()⟩])
  /-- The next request is waited for. -/
  wait : ∀ n t, n < total → I n t → Q t (.wait interval) ∧
    ∀ reply : Except Failure Unit, Passing R (fun _ => I n) (t ++ [⟨.wait interval, reply⟩]) reply
  /-- The list is asked for. -/
  ask : ∀ n t, n < total → I n t → Q t listing
  /-- The request fails in a way that is not contained. -/
  lost : ∀ n t e, n < total → I n t → R (t ++ [⟨listing, .error e⟩]) (.error e)
  /-- The list is given. -/
  given : ∀ n t (r : Response) records, n < total → I n t →
    Listing.ofResponse r = .records records →
    R (t ++ [⟨listing, .ok r⟩]) (.ok (some records))
  /-- The list is not given. -/
  missed : ∀ n t (r : Response), n < total → I n t →
    (∀ records, Listing.ofResponse r ≠ .records records) → I (n + 1) (t ++ [⟨listing, .ok r⟩])
  /-- The budget is spent. -/
  spent : ∀ t, I total t → R t (.ok none)

variable {I J : Nat → Dialogue → Prop} {total : Nat}

/-- One request for the list: it is given, or the query may go on. -/
theorem Rounds.fetch (h : Rounds Q R I J interval total) {n : Nat} (hn : n < total) {t : Dialogue}
    (ht : J n t) :
    Registry.fetch.Ensures Q (Passing R fun
      | some records => fun t => R t (.ok (some records))
      | none => I (n + 1)) t := by
  rw [Registry.fetch, ensures_bind, ensures_request]
  refine ⟨h.ask n t hn ht, fun reply => ?_⟩
  match reply with
  | .error e => exact h.lost n t e hn ht
  | .ok r =>
    rw [passing_ok]
    split
    · next records hr => exact h.given n t r records hn ht hr
    · next hr =>
      have hI := h.missed n t r hn ht (by simp [hr])
      simp only [ensures_bind, Program.log, ensures_emit, passing_ok, ensures_pure]
      exact h.emit _ _ _ hI
    · next hr =>
      have hI := h.missed n t r hn ht (by simp [hr])
      simp only [ensures_bind, Program.log, ensures_emit, passing_ok, ensures_pure]
      exact h.emit _ _ _ hI

/-- The requests that are left, the one that is due among them. -/
theorem Rounds.fetchUpTo (h : Rounds Q R I J interval total) {n left : Nat}
    (htotal : n + (left + 1) = total) {t : Dialogue} (ht : J n t) :
    (Registry.fetchUpTo interval (left + 1)).Ensures Q (Passing R fun
      | some records => fun t => R t (.ok (some records))
      | none => I total) t := by
  -- The number of requests made and that of those left add up to the budget.
  induction left generalizing n t with
  | zero =>
    rw [Registry.fetchUpTo, ensures_bind]
    refine (h.fetch (by omega) ht).weaken ?_
    rintro t (e | _ | records) hr
    · exact hr
    · obtain rfl : n + 1 = total := htotal
      exact hr
    · exact hr
  | succ left ih =>
    rw [Registry.fetchUpTo, ensures_bind]
    refine (h.fetch (by omega) ht).weaken ?_
    rintro t (e | _ | records) hr
    · exact hr
    · simp only [passing_ok, Nat.succ_ne_zero, if_false, ensures_bind, ensures_wait] at hr ⊢
      obtain ⟨hQ, hreply⟩ := h.wait (n + 1) t (Nat.le_add_left 1 n) (by omega) hr
      refine ⟨hQ, fun reply => ?_⟩
      have hnext := hreply reply
      cases reply with
      | error e => exact hnext
      | ok _ => exact ih (by omega) hnext
    · exact hr

/-- The whole query, with the budget that is given. -/
theorem Rounds.fetchWithRetry {attempts : Int} (h : Rounds Q R I J interval attempts.toNat)
    {t : Dialogue} (ht : J 0 t) :
    (Registry.fetchWithRetry attempts interval).Ensures Q R t := by
  have hall : (Registry.fetchUpTo interval attempts.toNat).Ensures Q (Passing R fun
      | some records => fun t => R t (.ok (some records))
      | none => I attempts.toNat) t := by
    cases htotal : attempts.toNat with
    | zero =>
      rw [htotal] at h
      exact h.barred rfl t ht
    | succ left =>
      rw [htotal] at h
      exact h.fetchUpTo (Nat.zero_add _) ht
  rw [Registry.fetchWithRetry, ensures_bind]
  refine hall.weaken ?_
  rintro t (e | _ | records) hr
  · exact hr
  · simp only [passing_ok, ensures_bind, Program.log, ensures_emit, ensures_pure] at hr ⊢
    obtain ⟨hQ, hI⟩ := h.emit _ t _ hr
    exact ⟨hQ, h.spent _ hI⟩
  · exact hr

/-- The whole query, by the coarser rule. -/
theorem Querying.fetchWithRetry {attempts : Int}
    (h : Querying Q R I interval attempts.toNat) {t : Dialogue} (ht : I 0 t) :
    (Registry.fetchWithRetry attempts interval).Ensures Q R t :=
  Rounds.fetchWithRetry (J := I)
    { h with
      wait := fun n t _ => h.wait n t
      barred := fun _ _ ht => ht } ht

end Registry

/-- A budget that is accepted is made of the settings. -/
theorem Budget.eq_of_make {retries interval : Int} {b : Budget}
    (h : Budget.make retries interval = .ok b) :
    b.retries = retries.toNat ∧ b.interval = interval := by
  simp only [make] at h
  split at h
  · cases h
  · split at h
    · cases h
    · obtain rfl := Except.ok.inj h
      exact ⟨rfl, rfl⟩

namespace Activation

variable {Q : Dialogue → Ask → Prop} {R : Dialogue → Except Failure Result → Prop} {s : Setup}
  {options : Option Options} {project : Project} {t : Dialogue}

/-- What has to be known where a project was found: the activation claims it, reconciles it and
gives it up, or it is refused the claim. -/
structure Claiming (Q : Dialogue → Ask → Prop) (R : Dialogue → Except Failure Result → Prop)
    (s : Setup) (options : Option Options) (project : Project) (t : Dialogue) : Prop where
  /-- The project is claimed. -/
  enter : Q t (.enter (s.key project))
  /-- The claim is granted. However the reconciliation ends, the project is given up. -/
  granted : (reconcile s project options).Ensures Q
    (fun t r => Q t (.leave (s.key project)) ∧ R (t ++ [⟨.leave (s.key project), .ok ()⟩]) r)
    (t ++ [⟨.enter (s.key project), .ok true⟩])
  /-- The claim is refused, which is logged. -/
  refused : ∀ e, Q (t ++ [⟨.enter (s.key project), .ok false⟩]) (.emit e) ∧
    R (t ++ [⟨.enter (s.key project), .ok false⟩] ++ [⟨.emit e, .ok ()⟩])
      (.ok ⟨.alreadyInFlight, some project, none⟩)

theorem Claiming.guarded (h : Claiming Q R s options project t) :
    (guarded s project options).Ensures Q R t := by
  rw [Activation.guarded, ensures_bind, ensures_enter]
  refine ⟨h.enter, fun free => ?_⟩
  cases free with
  | true =>
    simp only [passing_ok, ↓reduceIte, ensuring, ensures_bind, ensures_attempt, ensures_leave]
    exact h.granted
  | false =>
    simp only [passing_ok, Bool.false_eq_true, ↓reduceIte, ensures_bind, Program.log, ensures_emit,
      ensures_pure]
    exact h.refused _

/-- The question whether the service can be reached. -/
abbrev probe (s : Setup) : Ask := .request Poll.pingRequest [("process_id", .int s.pid)]

/-- The number of probes that an activation can make. -/
def probes (s : Setup) : Nat := s.config.polling.maxAttempts.toNat

/-- How an attempt to go on has to end after `n` probes: it was too early, or the activation is
over. -/
def Found (R : Dialogue → Except Failure Result → Prop) (I : Nat → Dialogue → Prop) (n : Nat)
    (t : Dialogue) : Except Failure (Option Result) → Prop
  | .ok none => I n t
  | .ok (some result) => R t (.ok result)
  | .error e => R t (.error e)

/-- What has to be known where the service was reached after `n` probes: the activation looks for
its project. -/
structure Resolving (Q : Dialogue → Ask → Prop) (R : Dialogue → Except Failure Result → Prop)
    (I : Nat → Dialogue → Prop) (s : Setup) (options : Option Options) (n : Nat) (t : Dialogue) :
    Prop where
  /-- The project is looked for. -/
  locate : Q t .locate
  /-- The search fails. -/
  lost : ∀ e, R (t ++ [⟨.locate, .error e⟩]) (.error e)
  /-- There is no project yet, which is logged. -/
  early : ∀ e, Q (t ++ [⟨.locate, .ok none⟩]) (.emit e) ∧
    I n (t ++ [⟨.locate, .ok none⟩] ++ [⟨.emit e, .ok ()⟩])
  /-- There is a project. -/
  found : ∀ project,
    (guarded s project options).Ensures Q R (t ++ [⟨.locate, .ok (some project)⟩])

theorem Resolving.resolve {I : Nat → Dialogue → Prop} {n : Nat}
    (h : Resolving Q R I s options n t) :
    (resolve s options).Ensures Q (Found R I n) t := by
  rw [Activation.resolve, ensures_bind, ensures_locate]
  refine ⟨h.locate, fun found => ?_⟩
  rcases found with e | _ | project
  · exact h.lost e
  · simp only [passing_ok, ensures_bind, Program.log, ensures_emit, ensures_pure]
    exact h.early _
  · simp only [passing_ok, ensures_bind, ensures_pure]
    refine (h.found project).weaken ?_
    rintro t (e | result) hr
    · exact hr
    · exact hr

/-- What a dialogue may look like while an activation polls, by the number of probes made: `J`
where the next one is due, `I` where the last one has not led to a result. -/
structure Rounds (Q : Dialogue → Ask → Prop) (R : Dialogue → Except Failure Result → Prop)
    (I J : Nat → Dialogue → Prop) (s : Setup) (options : Option Options) : Prop where
  /-- The settings of polling are refused. -/
  refused : ∀ e, Budget.make s.config.polling.maxAttempts s.config.polling.warmup = .error e →
    R [] (.error e)
  /-- The service is given time. -/
  warmup : Q [] (.wait s.config.polling.warmup) ∧
    ∀ reply : Except Failure Unit,
      Passing R (fun _ => J 0) [⟨.wait s.config.polling.warmup, reply⟩] reply
  /-- Something is logged. -/
  emit : ∀ n t e, I n t → Q t (.emit e) ∧ I n (t ++ [⟨.emit e, .ok ()⟩])
  /-- The next probe is waited for. -/
  wait : ∀ n t ms, 1 ≤ n → n < probes s →
    ms = s.config.polling.pingInterval ∨ ms = s.config.polling.discoveryInterval → I n t →
    Q t (.wait ms) ∧
      ∀ reply : Except Failure Unit, Passing R (fun _ => J n) (t ++ [⟨.wait ms, reply⟩]) reply
  /-- The service is probed. -/
  ask : ∀ n t, n < probes s → J n t → Q t (probe s)
  /-- The probe fails in a way that is not contained. -/
  lost : ∀ n t e, n < probes s → J n t → R (t ++ [⟨probe s, .error e⟩]) (.error e)
  /-- The service cannot be reached. -/
  missed : ∀ n t (r : Response), n < probes s → J n t → r.ok = false →
    I (n + 1) (t ++ [⟨probe s, .ok r⟩])
  /-- The service is reached. -/
  reached : ∀ n t (r : Response), n < probes s → J n t → r.ok = true →
    (resolve s options).Ensures Q (Found R I (n + 1)) (t ++ [⟨probe s, .ok r⟩])
  /-- There is no budget. -/
  barred : probes s = 0 → ∀ t, J 0 t → I 0 t
  /-- The budget is spent. -/
  spent : ∀ t, I (probes s) t → R t (.ok ⟨.exhausted, none, none⟩)

/-- What a dialogue may look like while an activation polls, by the number of probes made: `I`
survives all that does not end the polling. -/
structure Polling (Q : Dialogue → Ask → Prop) (R : Dialogue → Except Failure Result → Prop)
    (I : Nat → Dialogue → Prop) (s : Setup) (options : Option Options) : Prop where
  /-- The settings of polling are refused. -/
  refused : ∀ e, Budget.make s.config.polling.maxAttempts s.config.polling.warmup = .error e →
    R [] (.error e)
  /-- The service is given time. -/
  warmup : Q [] (.wait s.config.polling.warmup) ∧
    ∀ reply : Except Failure Unit,
      Passing R (fun _ => I 0) [⟨.wait s.config.polling.warmup, reply⟩] reply
  /-- Something is logged. -/
  emit : ∀ n t e, I n t → Q t (.emit e) ∧ I n (t ++ [⟨.emit e, .ok ()⟩])
  /-- The next probe is waited for. -/
  wait : ∀ n t ms, 1 ≤ n → n < probes s → I n t → Q t (.wait ms) ∧
    ∀ reply : Except Failure Unit, Passing R (fun _ => I n) (t ++ [⟨.wait ms, reply⟩]) reply
  /-- The service is probed. -/
  ask : ∀ n t, n < probes s → I n t → Q t (probe s)
  /-- The probe fails in a way that is not contained. -/
  lost : ∀ n t e, n < probes s → I n t → R (t ++ [⟨probe s, .error e⟩]) (.error e)
  /-- The service cannot be reached. -/
  missed : ∀ n t (r : Response), n < probes s → I n t → r.ok = false →
    I (n + 1) (t ++ [⟨probe s, .ok r⟩])
  /-- The service is reached. -/
  reached : ∀ n t (r : Response), n < probes s → I n t → r.ok = true →
    (resolve s options).Ensures Q (Found R I (n + 1)) (t ++ [⟨probe s, .ok r⟩])
  /-- The budget is spent. -/
  spent : ∀ t, I (probes s) t → R t (.ok ⟨.exhausted, none, none⟩)

variable {I J : Nat → Dialogue → Prop}

/-- How polling has to end for the activation to end as `R` says. -/
def PollEnd (R : Dialogue → Except Failure Result → Prop) (t : Dialogue) :
    Except Failure (Poll.Outcome Result) → Prop
  | .ok (.connected _ result) => R t (.ok result)
  | .ok (.exhausted _) => R t (.ok ⟨.exhausted, none, none⟩)
  | .error e => R t (.error e)

/-- One attempt: it ends the polling, or the polling may go on. -/
theorem Rounds.tick (h : Rounds Q R I J s options) {n : Nat} (hn : n < probes s) {t : Dialogue}
    (ht : J n t) :
    (Poll.tick s.pid (Activation.resolve s options)).Ensures Q (Passing (PollEnd R) fun
      | (_, some result) => fun t => R t (.ok result)
      | (_, none) => I (n + 1)) t := by
  rw [Poll.tick, ensures_bind, Poll.ping, ensures_bind, ensures_request]
  refine ⟨h.ask n t hn ht, fun reply => ?_⟩
  match reply with
  | .error e => exact h.lost n t e hn ht
  | .ok r =>
    rw [passing_ok, ensures_pure, passing_ok]
    split
    · next hok =>
      rw [ensures_bind]
      refine (h.reached n t r hn ht hok).weaken ?_
      rintro t (e | _ | result) hr
      · exact hr
      · exact hr
      · exact hr
    · next hok => exact h.missed n t r hn ht (by simpa using hok)

theorem Rounds.giveUp (h : Rounds Q R I J s options) {t : Dialogue} (ht : I (probes s) t)
    (n : Nat) :
    (Poll.giveUp n).Ensures Q (PollEnd R) t := by
  obtain ⟨hQ, hI⟩ := h.emit _ t
    (logged .debug .poller
      ("Gave up reaching index service after " ++ toString n ++ " attempts")) ht
  simp only [Poll.giveUp, ensures_bind, Program.log, ensures_emit, passing_ok, ensures_pure]
  exact ⟨hQ, h.spent _ hI⟩

/-- The attempts that are left, the one that is due among them. -/
theorem Rounds.loop (h : Rounds Q R I J s options) {n left : Nat}
    (htotal : n + (left + 1) = probes s) {t : Dialogue} (ht : J n t) :
    (Poll.loop s.pollSettings s.pid (Activation.resolve s options) n (left + 1)).Ensures Q
      (PollEnd R) t := by
  -- On the attempts after the one that is due: the last attempt gives up, any other one waits
  -- first.
  induction left generalizing n t with
  | zero =>
    rw [Poll.loop, ensures_bind]
    refine (h.tick (by omega) ht).weaken ?_
    rintro t (e | ⟨answered, _ | a⟩) hr
    · exact hr
    · have hlast : n + 1 = probes s := htotal
      simp only [passing_ok, if_true] at hr ⊢
      rw [hlast] at hr
      exact h.giveUp hr _
    · exact hr
  | succ left ih =>
    rw [Poll.loop, ensures_bind]
    refine (h.tick (by omega) ht).weaken ?_
    rintro t (e | ⟨answered, _ | a⟩) hr
    · exact hr
    · simp only [passing_ok, Nat.succ_ne_zero, if_false, Poll.pause, ensures_bind, Program.log,
        ensures_emit, ensures_wait] at hr ⊢
      -- Whichever of the two intervals it is, the wait is one that is allowed.
      have hms : ∀ b : Bool,
          (if b then s.pollSettings.discoveryInterval else s.pollSettings.pingInterval) =
              s.config.polling.pingInterval ∨
            (if b then s.pollSettings.discoveryInterval else s.pollSettings.pingInterval) =
              s.config.polling.discoveryInterval := by
        rintro (_ | _)
        · exact .inl rfl
        · exact .inr rfl
      obtain ⟨hQ, hI⟩ := h.emit _ t _ hr
      obtain ⟨hQ', hreply⟩ := h.wait (n + 1) _ _ (by omega) (by omega) (hms answered) hI
      refine ⟨hQ, hQ', fun reply => ?_⟩
      have hnext := hreply reply
      cases reply with
      | error e => exact hnext
      | ok _ => exact ih (by omega) hnext
    · exact hr

/-- An activation keeps to what survives its polling. -/
theorem Rounds.run (h : Rounds Q R I J s options) : (Activation.run s options).Ensures Q R [] := by
  rw [Activation.run, ensures_bind, Poll.run]
  -- The budget is made of the settings, so it is refused or it is the one of the rule.
  cases hb : Budget.make s.pollSettings.maxAttempts s.pollSettings.warmup with
  | error e => exact h.refused e hb
  | ok b =>
    obtain ⟨hretries, hinterval⟩ := Budget.eq_of_make hb
    simp only [ensures_bind, ensures_attempt, Poll.runWith, ensures_wait]
    rw [hinterval, hretries]
    refine ⟨h.warmup.1, fun reply => ?_⟩
    have hfirst := h.warmup.2 reply
    cases reply with
    | error e => exact hfirst
    | ok _ =>
      have hall : (Poll.loop s.pollSettings s.pid (Activation.resolve s options) 0
          s.pollSettings.maxAttempts.toNat).Ensures Q (PollEnd R)
          [⟨.wait s.config.polling.warmup, .ok ()⟩] := by
        cases htotal : s.pollSettings.maxAttempts.toNat with
        | zero =>
          have hI := h.barred htotal _ hfirst
          refine h.giveUp ?_ 0
          have hzero : probes s = 0 := htotal
          rwa [hzero]
        | succ left =>
          exact h.loop ((Nat.zero_add _).trans htotal.symm) hfirst
      refine hall.weaken ?_
      rintro t (e | ⟨n, result⟩ | n) hr
      · exact hr
      · exact hr
      · exact hr

/-- An activation keeps to what survives its polling, by the coarser rule. -/
theorem Polling.run (h : Polling Q R I s options) : (Activation.run s options).Ensures Q R [] :=
  Rounds.run (J := I)
    { h with
      wait := fun n t ms hpos hn _ => h.wait n t ms hpos hn
      barred := fun _ _ ht => ht }

end Activation

end IndexSync
