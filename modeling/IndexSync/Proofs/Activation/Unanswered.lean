import IndexSync.Proofs.Activation.Rules

/-!
# Activations that are not answered

If no probe of an activation is answered, it goes on until its budget is spent, unless it cannot
wait. So the probes that it makes are known from the settings and from the waits that fail.

* `Activation.Heard` — a probe was answered;
* `Activation.VainEnd` — how an activation ends without having been answered;
* `Activation.run_vain` — every activation ends like this, or it was answered.
-/

namespace IndexSync

open Program

namespace Activation

variable {α : Type} {s : Setup} {options : Option Options} {t : Dialogue} {n : Nat}

/-- The service has answered a probe, or a probe has failed in a way that is not contained. -/
def Heard (s : Setup) (t : Dialogue) : Prop :=
  ∃ reply : Except Failure Response, ⟨probe s, reply⟩ ∈ t ∧ ∀ r, reply = .ok r → r.ok = true

/-- What was heard once stays in the dialogue. -/
theorem Heard.ensures (h : Heard s t) (p : Program α) :
    p.Ensures (fun _ _ => True) (fun t _ => Heard s t) t := by
  refine (ensures_leads p t).mono (fun _ _ _ => trivial) ?_
  rintro _ r ⟨u, rfl, -⟩
  obtain ⟨reply, hreply, hok⟩ := h
  exact ⟨reply, List.mem_append_left u hreply, hok⟩

/-- A number of probes was made, all but the first after a delay. -/
structure Probed (s : Setup) (n : Nat) (t : Dialogue) : Prop where
  /-- Nothing else was requested. -/
  requests : t.requests = List.replicate n Poll.pingRequest
  /-- The service was given time. -/
  warmup : ⟨.wait s.config.polling.warmup, .ok ()⟩ ∈ t
  /-- The delay before a further probe has passed. -/
  interval : 2 ≤ n → ⟨.wait s.config.polling.pingInterval, .ok ()⟩ ∈ t

theorem Probed.snoc (h : Probed s n t) {a : Answer} (ha : a.op.requestName? = none) :
    Probed s n (t ++ [a]) :=
  ⟨by simp [h.requests, ha], List.mem_append_left _ h.warmup,
    fun hn => List.mem_append_left _ (h.interval hn)⟩

/-- A probe that is made once the delay has passed. -/
theorem Probed.snoc_probe (h : Probed s n t)
    (hready : 1 ≤ n → ⟨.wait s.config.polling.pingInterval, .ok ()⟩ ∈ t)
    (reply : Except Failure Response) : Probed s (n + 1) (t ++ [⟨probe s, reply⟩]) := by
  refine ⟨?_, List.mem_append_left _ h.warmup, fun hn => ?_⟩
  · simp [h.requests, Ask.requestName?, List.replicate_succ']
  · exact List.mem_append_left _ (hready (Nat.le_of_succ_le_succ hn))

/-- A failed wait for a further probe. -/
def Cut (s : Setup) (t : Dialogue) (e : Failure) : Prop :=
  ∃ n, 1 ≤ n ∧ n < probes s ∧ Probed s n t ∧
    ⟨.wait s.config.polling.pingInterval, .error e⟩ ∈ t

/-- How polling ends, unless a probe is answered. -/
def VainPoll (s : Setup) (t : Dialogue) : Except Failure (Poll.Outcome Result) → Prop
  | .ok (.connected _ _) => False
  | .ok (.exhausted _) => Probed s (probes s) t
  | .error e => Cut s t e

/-- One attempt: the service is heard, or one more probe was made. -/
theorem tick_vain (h : Probed s n t)
    (hready : 1 ≤ n → ⟨.wait s.config.polling.pingInterval, .ok ()⟩ ∈ t) :
    (Poll.tick s.pid (resolve s options)).Ensures (fun _ _ => True)
      (fun t r => Heard s t ∨ r = .ok (false, none) ∧ Probed s (n + 1) t) t := by
  rw [Poll.tick, ensures_bind, Poll.ping, ensures_bind, ensures_request]
  refine ⟨trivial, fun reply => ?_⟩
  cases reply with
  | error e => exact Or.inl ⟨.error e, by simp, fun r hr => by cases hr⟩
  | ok r =>
    rw [passing_ok, ensures_pure, passing_ok]
    split
    · next hok =>
      -- Whatever follows, the service was heard.
      have hheard : Heard s (t ++ [⟨probe s, .ok r⟩]) :=
        ⟨.ok r, List.mem_append_right t (List.mem_singleton.2 rfl),
          fun r' hr' => Except.ok.inj hr' ▸ hok⟩
      exact (hheard.ensures _).weaken fun _ _ h => Or.inl h
    · exact Or.inr ⟨rfl, h.snoc_probe hready (.ok r)⟩

theorem giveUp_vain (h : Probed s (probes s) t) (attempts : Nat) :
    (Poll.giveUp attempts).Ensures (fun _ _ => True) (fun t r => Heard s t ∨ VainPoll s t r) t := by
  simp only [Poll.giveUp, Program.log, ensures_bind, ensures_emit, passing_ok, ensures_pure,
    true_and]
  exact Or.inr (h.snoc rfl)

/-- Attempts that are not answered are made up to the last one, or until the next one cannot be
waited for. -/
theorem loop_vain {left : Nat} (htotal : n + left = probes s) (h : Probed s n t)
    (hready : 1 ≤ n → ⟨.wait s.config.polling.pingInterval, .ok ()⟩ ∈ t) :
    (Poll.loop s.pollSettings s.pid (resolve s options) n left).Ensures (fun _ _ => True)
      (fun t r => Heard s t ∨ VainPoll s t r) t := by
  induction left generalizing n t with
  | zero =>
    obtain rfl : n = probes s := by omega
    exact giveUp_vain h _
  | succ left ih =>
    rw [Poll.loop, ensures_bind]
    refine (tick_vain h hready).weaken ?_
    rintro t r (hheard | ⟨rfl, hnext⟩)
    · cases r with
      | error e => exact Or.inl hheard
      | ok found => exact (hheard.ensures _).weaken fun _ _ h => Or.inl h
    · rw [passing_ok]
      dsimp only
      -- After the last probe nothing is waited for.
      by_cases hleft : left = 0
      · obtain hlast : n + 1 = probes s := by omega
        rw [if_pos hleft]
        exact giveUp_vain (hlast ▸ hnext) _
      · simp only [if_neg hleft, Poll.pause, Program.log, ensures_bind, ensures_emit, passing_ok,
          ensures_wait, true_and, Bool.false_eq_true, if_false]
        intro reply
        have hwaited : ∀ e : Event, Probed s (n + 1)
            (t ++ [⟨.emit e, .ok ()⟩] ++ [⟨.wait s.config.polling.pingInterval, reply⟩]) :=
          fun e => (hnext.snoc (a := ⟨.emit e, .ok ()⟩) rfl).snoc rfl
        have hmem : ∀ u : Dialogue, ⟨.wait s.config.polling.pingInterval, reply⟩ ∈
            u ++ [⟨.wait s.config.polling.pingInterval, reply⟩] := by simp
        cases reply with
        | error e => exact Or.inr ⟨n + 1, Nat.le_add_left 1 n, by omega, hwaited _, hmem _⟩
        | ok _ => exact ih (by omega) (hwaited _) fun _ => hmem _

/-- How an activation ends whose probes are not answered: its budget is spent, or it cannot wait for
the first probe or for another one. -/
def VainEnd (s : Setup) (t : Dialogue) (r : Except Failure Result) : Prop :=
  (Probed s (probes s) t ∧ r = .ok ⟨.exhausted, none, none⟩) ∨
    (t.requests = [] ∧ ∃ e, r = .error e ∧ ⟨.wait s.config.polling.warmup, .error e⟩ ∈ t) ∨
    ∃ e, r = .error e ∧ Cut s t e

/-- An activation whose budgets are accepted is answered, or it ends without having been. -/
theorem run_vain (options : Option Options)
    (hbudget : ∀ e, Budget.make s.config.polling.maxAttempts s.config.polling.warmup ≠ .error e) :
    (run s options).Ensures (fun _ _ => True) (fun t r => Heard s t ∨ VainEnd s t r) [] := by
  rw [Activation.run, ensures_bind, Poll.run]
  cases hb : Budget.make s.pollSettings.maxAttempts s.pollSettings.warmup with
  | error e => exact absurd hb (hbudget e)
  | ok b =>
    obtain ⟨hretries, hinterval⟩ := Budget.eq_of_make hb
    simp only [ensures_bind, ensures_attempt, Poll.runWith, ensures_wait, true_and]
    rw [hinterval, hretries]
    intro reply
    cases reply with
    | error e => exact Or.inr (Or.inr (Or.inl ⟨rfl, e, rfl, List.mem_singleton.2 rfl⟩))
    | ok _ =>
      have hwarmed : Probed s 0 [⟨.wait s.config.polling.warmup, .ok ()⟩] :=
        ⟨rfl, List.mem_singleton.2 rfl, fun hn => absurd hn (by decide)⟩
      refine (loop_vain (Nat.zero_add _) hwarmed fun hn => absurd hn (by decide)).weaken ?_
      rintro t (e | ⟨n, result⟩ | n) hr
      · exact hr.imp_right fun hcut => Or.inr (Or.inr ⟨e, rfl, hcut⟩)
      · exact hr.imp_right False.elim
      · exact hr.imp_right fun hspent => Or.inl ⟨hspent, rfl⟩

end Activation

end IndexSync
