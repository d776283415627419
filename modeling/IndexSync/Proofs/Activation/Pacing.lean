import IndexSync.Proofs.Activation.Guard
import IndexSync.Proofs.Activation.Reconciliation
import IndexSync.Proofs.Validation

/-!
# The waits of an activation

An activation waits once before its first probe, between any two probes and between any two
requests for the project list. With settings of a checked configuration all delays are positive,
and the two budgets bound the number of waits.

* `Activation.Paced` — a number of waits that are all positive;
* `Activation.paced_ensures` — an activation does not wait more often than its budgets allow;
* `Activation.GuardedAsk.listing_of_claim` — an activation that has claimed a project goes on to ask
  for the project list.
-/

namespace IndexSync

open Program

/-- The delay that a question waits for. -/
def Ask.wait? : Ask → Option Int
  | .wait ms => some ms
  | _ => none

/-- The delays that were waited for in a dialogue, in order. -/
def Dialogue.waits (t : Dialogue) : List Int := t.filterMap fun a => a.op.wait?

@[simp]
theorem Dialogue.waits_nil : Dialogue.waits [] = [] := rfl

@[simp]
theorem Dialogue.waits_snoc (t : Dialogue) (a : Answer) :
    Dialogue.waits (t ++ [a]) = t.waits ++ a.op.wait?.toList := by
  cases h : a.op.wait? <;> simp [waits, h]

namespace Activation

variable {α : Type} {s : Setup} {options : Option Options} {project : Project} {t : Dialogue}
  {m n : Nat}

/-- At most a number of waits, each for a positive delay. -/
structure Paced (n : Nat) (waits : List Int) : Prop where
  positive : ∀ ms ∈ waits, 0 < ms
  length_le : waits.length ≤ n

theorem Paced.mono {waits : List Int} (h : Paced n waits) (hmn : n ≤ m) : Paced m waits :=
  ⟨h.positive, Nat.le_trans h.length_le hmn⟩

/-- The most waits of an activation. -/
def waitLimit (s : Setup) : Nat := probes s + listings s - 1

/-- A question is no wait too many. -/
def PacedAsk (s : Setup) (t : Dialogue) (op : Ask) : Prop :=
  Paced (waitLimit s) (t.waits ++ op.wait?.toList)

/-- The waits between requests for the list come on top of those between probes. -/
theorem probes_add_le {k : Nat} (hk : k < listings s) : probes s + k ≤ waitLimit s := by
  unfold waitLimit
  omega

/-- A question that waits for nothing. -/
theorem PacedAsk.of_noWait (h : Paced n t.waits) (hn : n ≤ waitLimit s) {op : Ask}
    (hop : op.wait? = none) : PacedAsk s t op := by
  rw [PacedAsk, hop, Option.toList_none, List.append_nil]
  exact h.mono hn

/-- A wait is one wait more. -/
theorem Paced.wait (h : Paced n t.waits) {ms : Int} (hms : 0 < ms) (hn : n + 1 ≤ waitLimit s) :
    PacedAsk s t (.wait ms) ∧
      ∀ reply, Paced (n + 1) (Dialogue.waits (t ++ [⟨.wait ms, reply⟩])) := by
  have hwaited : Paced (n + 1) (t.waits ++ [ms]) := by
    refine ⟨fun k hk => ?_, by simp [h.length_le]⟩
    rcases List.mem_append.1 hk with hk | hk
    · exact h.positive k hk
    · obtain rfl := List.mem_singleton.1 hk
      exact hms
  refine ⟨hwaited.mono hn, fun reply => ?_⟩
  rw [Dialogue.waits_snoc]
  exact hwaited

theorem Paced.answer (h : Paced n t.waits) {a : Answer} (ha : a.op.wait? = none) :
    Paced n (t ++ [a]).waits := by
  rwa [Dialogue.waits_snoc, ha, Option.toList_none, List.append_nil]

/-- A program that waits for nothing adds no waits. -/
theorem Paced.ensures (h : Paced n t.waits) (hn : n ≤ waitLimit s) {p : Program α}
    (hp : p.Only fun op => op.wait? = none) :
    p.Ensures (PacedAsk s) (fun t _ => Paced n t.waits) t := by
  induction p generalizing t with
  | done r => exact h
  | ask op next ih =>
    exact ⟨.of_noWait h hn hp.1, fun reply _ => ih reply (h.answer hp.1) (hp.2 reply)⟩

section Valid

variable (hvalid : s.config.polling.Valid)
include hvalid

theorem one_le_probes : 1 ≤ probes s := by
  have := hvalid.maxAttempts
  unfold probes
  omega

theorem one_le_listings : 1 ≤ listings s := by
  have := hvalid.registryAttempts
  unfold listings
  omega

theorem probes_le : probes s ≤ waitLimit s := probes_add_le (one_le_listings hvalid)

/-- A program that asks for the list waits only between the requests. -/
theorem fetch_paced (h : Paced (probes s) t.waits) :
    (Registry.fetchWithRetry s.config.polling.registryAttempts
      s.config.polling.registryInterval).Ensures (PacedAsk s)
        (fun t _ => Paced (waitLimit s) t.waits) t := by
  have hprobes := one_le_probes hvalid
  have hlistings := one_le_listings hvalid
  -- A request is counted once it was made: the first one is waited for by nobody.
  refine Registry.Rounds.fetchWithRetry
    (I := fun k t => 1 ≤ k ∧ k ≤ listings s ∧ Paced (probes s + k - 1) t.waits)
    (J := fun k t => Paced (probes s + k) t.waits) ⟨?_, ?_, ?_, ?_, ?_, ?_, ?_, ?_⟩ h
  · -- Something is logged.
    rintro k t e ⟨hpos, hk, ht⟩
    exact ⟨.of_noWait ht (by unfold waitLimit; omega) rfl, hpos, hk, ht.answer rfl⟩
  · -- The next request is waited for.
    rintro k t - hk ⟨hpos, -, ht⟩
    have hsucc : probes s + k - 1 + 1 = probes s + k := by omega
    obtain ⟨hask, hwaited⟩ := ht.wait (s := s) hvalid.registryInterval (hsucc ▸ probes_add_le hk)
    rw [hsucc] at hwaited
    refine ⟨hask, fun reply => ?_⟩
    cases reply with
    | error e => exact (hwaited _).mono (probes_add_le hk)
    | ok _ => exact hwaited _
  · -- The list is asked for: the request fails, or the list is given, or it is not.
    exact fun k t hk ht => .of_noWait ht (probes_add_le hk) rfl
  · exact fun k t e hk ht => (ht.answer rfl).mono (probes_add_le hk)
  · exact fun k t r records hk ht _ => (ht.answer rfl).mono (probes_add_le hk)
  · exact fun k t r hk ht _ => ⟨Nat.le_add_left 1 k, hk, ht.answer rfl⟩
  · -- There is a budget.
    exact fun hzero => absurd hzero (Nat.ne_of_gt hlistings)
  · -- The budget is spent.
    rintro t ⟨-, -, ht⟩
    exact ht

/-- A reconciliation waits only between requests for the list. -/
theorem reconcile_paced (h : Paced (probes s) t.waits) :
    (reconcile s project options).Ensures (PacedAsk s)
      (fun t _ => Paced (waitLimit s) t.waits) t := by
  rw [reconcile, ensures_bind]
  refine (fetch_paced hvalid h).weaken ?_
  rintro t (e | _ | records) ht
  · exact ht
  · exact ht
  · rw [passing_ok, ensures_bind]
    -- Neither the judgement nor the dispatch waits, so that the bound on the waits is kept.
    have hjudge : (judge s project records).Only fun op => op.wait? = none :=
      judge_only (fun _ => rfl) records
    refine (ht.ensures (Nat.le_refl _) hjudge).weaken ?_
    rintro t (e | d) ht
    · exact ht
    · rw [passing_ok, ensures_bind]
      have hdispatch := dispatch_only (C := fun op => op.wait? = none) (fun _ => rfl)
        (fun _ _ => rfl) d project (some (indexOptions s project options))
      refine (ht.ensures (Nat.le_refl _) hdispatch).weaken ?_
      rintro t (e | ids) ht
      · exact ht
      · exact ht

theorem guarded_paced (h : Paced (probes s) t.waits) :
    (guarded s project options).Ensures (PacedAsk s)
      (fun t _ => Paced (waitLimit s) t.waits) t := by
  have hlimit := probes_le hvalid
  have hentered (free : Bool) := h.answer (a := ⟨.enter (s.key project), .ok free⟩) rfl
  refine Claiming.guarded
    { enter := .of_noWait h hlimit rfl
      granted := ?_
      refused := fun _ =>
        ⟨.of_noWait (hentered false) hlimit rfl, ((hentered false).answer rfl).mono hlimit⟩ }
  exact (reconcile_paced hvalid (hentered true)).weaken fun t r ht =>
    ⟨.of_noWait ht (Nat.le_refl _) rfl, ht.answer rfl⟩

/-- After a probe, an activation waits for nothing until it finds a project. -/
theorem resolve_paced (hn : n < probes s) (h : Paced (n + 1) t.waits) :
    (resolve s options).Ensures (PacedAsk s)
      (Found (fun t _ => Paced (waitLimit s) t.waits)
        (fun k t => 1 ≤ k ∧ k ≤ probes s ∧ Paced k t.waits) (n + 1)) t := by
  have hlimit := probes_le hvalid
  have hwithin : n + 1 ≤ waitLimit s := Nat.le_trans hn hlimit
  have hfound (found : Except Failure (Option Project)) := h.answer (a := ⟨.locate, found⟩) rfl
  exact Resolving.resolve
    { locate := .of_noWait h hwithin rfl
      lost := fun _ => (hfound _).mono hwithin
      early := fun _ =>
        ⟨.of_noWait (hfound _) hwithin rfl, Nat.le_add_left 1 n, hn, (hfound _).answer rfl⟩
      found := fun _ => guarded_paced hvalid ((hfound _).mono hn) }

/-- An activation does not wait more often than its budgets allow, and never for nothing. -/
theorem paced_ensures (options : Option Options) :
    (run s options).Ensures (PacedAsk s) (fun t _ => Paced (waitLimit s) t.waits) [] := by
  have hprobes := one_le_probes hvalid
  have hlimit : ∀ {k}, k ≤ probes s → k ≤ waitLimit s :=
    fun hk => Nat.le_trans hk (probes_le hvalid)
  -- A probe is waited for before it is made, so that there is a wait more than there were probes.
  refine Rounds.run (I := fun k t => 1 ≤ k ∧ k ≤ probes s ∧ Paced k t.waits)
    (J := fun k t => Paced (k + 1) t.waits) ⟨?_, ?_, ?_, ?_, ?_, ?_, ?_, ?_, ?_, ?_⟩
  · -- The settings of polling are refused.
    exact fun e _ => ⟨by simp, Nat.zero_le _⟩
  · -- The service is given time.
    have hnone : Paced 0 (Dialogue.waits []) := ⟨by simp, Nat.le_refl 0⟩
    obtain ⟨hask, hwaited⟩ := hnone.wait hvalid.warmup (hlimit hprobes)
    refine ⟨hask, fun reply => ?_⟩
    cases reply with
    | error e => exact (hwaited _).mono (hlimit hprobes)
    | ok _ => exact hwaited _
  · -- Something is logged.
    rintro k t e ⟨hpos, hk, ht⟩
    exact ⟨.of_noWait ht (hlimit hk) rfl, hpos, hk, ht.answer rfl⟩
  · -- The next probe is waited for.
    rintro k t ms - hk hms ⟨-, -, ht⟩
    have hpos : 0 < ms := by
      rcases hms with rfl | rfl
      · exact hvalid.pingInterval
      · exact hvalid.discoveryInterval
    obtain ⟨hask, hwaited⟩ := ht.wait hpos (hlimit hk)
    refine ⟨hask, fun reply => ?_⟩
    cases reply with
    | error e => exact (hwaited _).mono (hlimit hk)
    | ok _ => exact hwaited _
  · -- The service is probed: the probe fails, or the service is not reached, or it is.
    exact fun k t hk ht => .of_noWait ht (hlimit hk) rfl
  · exact fun k t e hk ht => (ht.answer rfl).mono (hlimit hk)
  · exact fun k t r hk ht _ => ⟨Nat.le_add_left 1 k, hk, ht.answer rfl⟩
  · exact fun k t r hk ht _ => resolve_paced hvalid hk (ht.answer rfl)
  · -- There is a budget.
    exact fun hzero => absurd hzero (Nat.ne_of_gt hprobes)
  · -- The budget is spent.
    rintro t ⟨-, hk, ht⟩
    exact ht.mono (hlimit hk)

/-- A reconciliation begins by asking for the project list. -/
theorem reconcile_eq_ask (project : Project) (options : Option Options) :
    ∃ next, reconcile s project options = .ask Registry.listing next := by
  obtain ⟨left, hleft⟩ : ∃ left, s.config.polling.registryAttempts.toNat = left + 1 :=
    ⟨listings s - 1, (Nat.sub_add_cancel (one_le_listings hvalid)).symm⟩
  rw [reconcile, Registry.fetchWithRetry, hleft, Registry.fetchUpTo, Registry.fetch]
  exact ⟨_, rfl⟩

/-- The project list is the first thing that is asked for while a project is reconciled. -/
theorem Inside.listing {rest : Program Result} (h : Inside s options project t rest) :
    (∃ next, rest = .ask Registry.listing next) ∨
      ∃ reply, (⟨Registry.listing, reply⟩ : Answer) ∈ t := by
  obtain ⟨before, inside, rfl, -, hinside⟩ := h
  obtain ⟨next, hask⟩ := reconcile_eq_ask hvalid project options
  rw [hask] at hinside
  cases hinside with
  | here p => exact .inl ⟨next, rfl⟩
  | @next op next reply t q _ _ =>
    exact .inr ⟨reply, List.mem_append_right _ (List.mem_cons_of_mem _ List.mem_cons_self)⟩

/-- An activation that has claimed a project goes on to ask for the project list. -/
theorem GuardedAsk.listing_of_claim {op : Ask} (h : GuardedAsk s options t op) {key : String}
    (hmem : (⟨.enter key, .ok true⟩ : Answer) ∈ t) :
    op = Registry.listing ∨ ∃ reply, (⟨Registry.listing, reply⟩ : Answer) ∈ t := by
  cases hop : op.isGuard with
  | true =>
    cases op with
    | enter k => exact absurd hmem h.1.not_mem_enter
    | leave k =>
      obtain ⟨project, r, -, hinside⟩ := h
      rcases hinside.listing hvalid with ⟨next, hnext⟩ | hlisted
      · cases hnext
      · exact .inr hlisted
    | _ => cases hop
  | false =>
    rcases (guardedAsk_of_not_isGuard hop).1 h with ⟨hout, -⟩ | ⟨_, _, hinside⟩ | ⟨_, hrefused, -⟩
    · exact absurd hmem hout.not_mem_enter
    · refine (hinside.listing hvalid).imp_left ?_
      rintro ⟨next, hnext⟩
      cases hnext
      rfl
    · cases (hrefused.of_mem_enter hmem).2

/-- An activation that has claimed a project and has ended has asked for the project list. -/
theorem GuardedEnd.listing_of_claim {result : Option Result} (h : GuardedEnd s options t result)
    {key : String} (hmem : (⟨.enter key, .ok true⟩ : Answer) ∈ t) :
    ∃ reply, (⟨Registry.listing, reply⟩ : Answer) ∈ t := by
  rcases h with ⟨hout, -⟩ | ⟨_, hrefused, -⟩ | ⟨project, r, hleft, -⟩
  · exact absurd hmem hout.not_mem_enter
  · cases (hrefused.of_mem_enter hmem).2
  · obtain ⟨u, rfl, hinside⟩ := hleft
    rcases hinside.listing hvalid with ⟨next, hnext⟩ | ⟨reply, hlisted⟩
    · cases hnext
    · exact ⟨reply, List.mem_append_left _ hlisted⟩

end Valid

end Activation

end IndexSync
