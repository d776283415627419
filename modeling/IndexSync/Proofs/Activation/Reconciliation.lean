import IndexSync.Proofs.Activation.Rules

/-!
# The dialogue of a reconciliation

A reconciliation asks for the project list until it is given, looks at the index of the project if
the project is on the list, and starts the tasks that its decision calls for. Its dialogues tell
which of these it has done:

* `Registry.Queried n t` — the list was asked for `n` times and not given;
* `Activation.Judged` — what was looked at, and the decision that followed;
* `Activation.Dispatched` — the decision was made and its tasks were started;
* `Activation.reconcile_ensures` — every reconciliation goes this way.
-/

namespace IndexSync

open Program

/-- A question that serves to get the project list. -/
def Ask.isQuery : Ask → Bool
  | .emit _ => true
  | .wait _ => true
  | .request name _ => name == Registry.listRequest
  | _ => false

namespace Registry

variable {t : Dialogue} {n : Nat}

/-- A dialogue in which a usable project list was given. -/
def Listed (t : Dialogue) (records : List Record) : Prop :=
  ∃ r, ⟨listing, .ok r⟩ ∈ t ∧ Listing.ofResponse r = .records records

/-- The project list was asked for a number of times and not given. -/
structure Queried (n : Nat) (t : Dialogue) : Prop where
  /-- Nothing else was asked. -/
  ops : ∀ a ∈ t, a.op.isQuery = true
  /-- The number of requests. -/
  requests : t.requests = List.replicate n listRequest
  /-- The list was not given. -/
  missed : ∀ records, ¬Listed t records

theorem queried_nil : Queried 0 [] :=
  ⟨fun _ h => absurd h (by simp), rfl, fun _ ⟨_, h, _⟩ => absurd h (by simp)⟩

/-- A list that is given is given by one of the answers. -/
theorem listed_append {u : Dialogue} {records : List Record} :
    Listed (t ++ u) records ↔ Listed t records ∨ Listed u records := by
  simp only [Listed, List.mem_append]
  constructor
  · rintro ⟨r, h | h, hr⟩
    · exact Or.inl ⟨r, h, hr⟩
    · exact Or.inr ⟨r, h, hr⟩
  · rintro (⟨r, h, hr⟩ | ⟨r, h, hr⟩)
    · exact ⟨r, Or.inl h, hr⟩
    · exact ⟨r, Or.inr h, hr⟩

/-- Nothing is given where nothing was asked for. -/
theorem not_listed_of_ne {u : Dialogue} (h : ∀ a ∈ u, a.op ≠ listing) (records : List Record) :
    ¬Listed u records := fun ⟨_, hmem, _⟩ => h _ hmem rfl

/-- Logging and waiting bring the list no nearer. -/
theorem Queried.snoc_idle (h : Queried n t) {a : Answer} (ha : a.op.isQuery = true)
    (hname : a.op.requestName? = none) : Queried n (t ++ [a]) := by
  refine ⟨?_, ?_, fun records => ?_⟩
  · intro b hb
    rcases List.mem_append.1 hb with hb | hb
    · exact h.ops b hb
    · rw [List.mem_singleton.1 hb]
      exact ha
  · simp [h.requests, hname]
  · rw [listed_append]
    refine not_or.2 ⟨h.missed records, not_listed_of_ne (fun b hb => ?_) records⟩
    rw [List.mem_singleton.1 hb]
    rintro heq
    rw [heq] at hname
    cases hname

/-- A request that does not bring the list counts. -/
theorem Queried.snoc_missed (h : Queried n t) {r : Response}
    (hr : ∀ records, Listing.ofResponse r ≠ .records records) :
    Queried (n + 1) (t ++ [⟨listing, .ok r⟩]) := by
  refine ⟨?_, ?_, fun records => ?_⟩
  · intro b hb
    rcases List.mem_append.1 hb with hb | hb
    · exact h.ops b hb
    · rw [List.mem_singleton.1 hb]
      simp [Ask.isQuery]
  · simp [h.requests, Ask.requestName?, List.replicate_succ']
  · rw [listed_append]
    refine not_or.2 ⟨h.missed records, ?_⟩
    rintro ⟨r', hmem, hr'⟩
    simp only [List.mem_singleton, Answer.mk.injEq, heq_eq_eq, true_and] at hmem
    obtain rfl := Except.ok.inj hmem
    exact hr records hr'

/-- As long as the list was only asked for, no task was started. -/
theorem Queried.spawned (h : Queried n t) : t.spawned = [] := by
  rw [Dialogue.spawned, List.filterMap_eq_nil_iff]
  intro a ha
  have hop := h.ops a ha
  obtain ⟨op, reply⟩ := a
  cases op <;> first | rfl | cases hop

end Registry

namespace Activation

variable {s : Setup} {project : Project} {options : Option Options} {t : Dialogue}

/-- The number of requests for the project list that an activation can make. -/
def listings (s : Setup) : Nat := s.config.polling.registryAttempts.toNat

/-- The settings that the tasks of a decision are given. -/
def taskOptions (s : Setup) (project : Project) (options : Option Options) : Options :=
  Dispatch.projectOptions project (some (indexOptions s project options))

/-- The tasks that a decision calls for. -/
def jobs (s : Setup) (project : Project) (options : Option Options) : Decision → List Job
  | .synced => []
  | .refreshOnly => [.call .refresh ((taskOptions s project options).erase Setting.scope.key)]
  | .fullRefreshAndWatch =>
    [.call .refresh (Dispatch.fullScope (taskOptions s project options)),
      .call .watch (taskOptions s project options)]
  | .registerFirst => [.chain (taskOptions s project options)]

/-- The project list was given at the last request. -/
def Given (s : Setup) (t : Dialogue) (records : List Record) : Prop :=
  ∃ n before r, n < listings s ∧ Registry.Queried n before ∧
    Registry.Listing.ofResponse r = .records records ∧ t = before ++ [⟨Registry.listing, .ok r⟩]

/-- What was looked at to judge a project, and the decision that followed. The index of a project
that is not on the list is not looked at. -/
def Judged (s : Setup) (project : Project) (records : List Record) (looked : Dialogue)
    (d : Decision) : Prop :=
  match Record.find? s.caseRule records project.root.text with
  | none => looked = [] ∧ d = .registerFirst
  | some record => ∃ staleness : Staleness,
      looked =
        [⟨.assess project.root (s.indexFile project.root) record.fingerprint, .ok staleness⟩] ∧
      d = staleness.decision

/-- A decision was made from the project list, and the tasks it calls for were started. -/
def Dispatched (s : Setup) (project : Project) (options : Option Options) (t : Dialogue)
    (d : Decision) : Prop :=
  ∃ given records looked started, t = given ++ looked ++ started ∧ Given s given records ∧
    Judged s project records looked d ∧ (∀ a ∈ started, a.op.isPrompt = true) ∧
    started.spawned.map Prod.snd = jobs s project options d

/-- Nothing was started, and the list was asked for within the budget. -/
def Stopped (s : Setup) (t : Dialogue) : Prop :=
  t.spawned = [] ∧ ∃ l ≤ listings s, t.requests = List.replicate l Registry.listRequest

/-- When a reconciliation asks what. -/
structure ReconcileAsk (s : Setup) (t : Dialogue) (op : Ask) : Prop where
  /-- It pauses only before it starts tasks. -/
  pause : op.isPrompt = false → t.spawned = []
  /-- It sends requests only for the list, as long as the list is not given and the budget is not
  spent. -/
  request : ∀ name, op.requestName? = some name →
    op = Registry.listing ∧ ∃ n < listings s, Registry.Queried n t
  /-- It starts tasks only once the list was given. -/
  spawn : ∀ name job, op = .spawn name job → ∃ records, Registry.Listed t records

/-- How a reconciliation ends. -/
def ReconcileEnd (s : Setup) (project : Project) (options : Option Options) (t : Dialogue) :
    Except Failure Result → Prop
  | .error _ => Stopped s t
  | .ok result =>
    Registry.Queried (listings s) t ∧ result = ⟨.registryUnavailable, some project, none⟩ ∨
      ∃ d, Dispatched s project options t d ∧ result = ⟨.dispatched, some project, some d⟩

theorem Given.listed {records : List Record} (h : Given s t records) :
    Registry.Listed t records := by
  obtain ⟨n, before, r, -, -, hr, rfl⟩ := h
  exact ⟨r, by simp, hr⟩

theorem Given.stopped {records : List Record} (h : Given s t records) : Stopped s t := by
  obtain ⟨n, before, r, hn, hbefore, hr, rfl⟩ := h
  refine ⟨?_, n + 1, hn, ?_⟩
  · simp [hbefore.spawned, Answer.spawned?]
  · simp [hbefore.requests, Ask.requestName?, List.replicate_succ']

/-- A decision is made from a list that was given. -/
theorem Dispatched.listed {d : Decision} (h : Dispatched s project options t d) :
    ∃ records, Registry.Listed t records := by
  obtain ⟨given, records, looked, started, rfl, hgiven, -, -, -⟩ := h
  refine ⟨records, ?_⟩
  rw [List.append_assoc]
  exact Registry.listed_append.2 (Or.inl hgiven.listed)

/-- To judge a project sends no request and starts no task. -/
theorem Judged.idle {records : List Record} {looked : Dialogue} {d : Decision}
    (h : Judged s project records looked d) : looked.requests = [] ∧ looked.spawned = [] := by
  rw [Judged] at h
  split at h
  · obtain ⟨rfl, -⟩ := h
    exact ⟨rfl, rfl⟩
  · obtain ⟨staleness, rfl, -⟩ := h
    exact ⟨rfl, rfl⟩

/-- What is asked and answered on the spot sends no request. -/
theorem requests_of_isPrompt {u : Dialogue} (h : ∀ a ∈ u, a.op.isPrompt = true) :
    u.requests = [] := by
  rw [Dialogue.requests, List.filterMap_eq_nil_iff]
  intro a ha
  have hop := h a ha
  obtain ⟨op, reply⟩ := a
  cases op <;> first | rfl | cases hop

/-- A decision takes at least one request for the list, and no more than the budget. -/
theorem Dispatched.requests {d : Decision} (h : Dispatched s project options t d) :
    ∃ l, 1 ≤ l ∧ l ≤ listings s ∧ t.requests = List.replicate l Registry.listRequest := by
  obtain ⟨given, records, looked, started, rfl, ⟨n, before, r, hn, hbefore, -, rfl⟩, hjudged,
    hstarted, -⟩ := h
  refine ⟨n + 1, Nat.le_add_left 1 n, hn, ?_⟩
  rw [Dialogue.requests_append, Dialogue.requests_append, hjudged.idle.1,
    requests_of_isPrompt hstarted]
  simp [hbefore.requests, Ask.requestName?, List.replicate_succ']

/-- The tasks that were started are those that the decision calls for. -/
theorem Dispatched.spawned {d : Decision} (h : Dispatched s project options t d) :
    t.spawned.map Prod.snd = jobs s project options d := by
  obtain ⟨given, records, looked, started, rfl, hgiven, hjudged, -, hjobs⟩ := h
  rw [Dialogue.spawned_append, Dialogue.spawned_append, hgiven.stopped.1, hjudged.idle.2,
    List.nil_append, List.nil_append, hjobs]

/-- A question that sends nothing and starts nothing is always in place before tasks are started. -/
theorem ReconcileAsk.of_idle {op : Ask} (ht : t.spawned = []) (hname : op.requestName? = none)
    (hspawn : ∀ name job, op ≠ .spawn name job) : ReconcileAsk s t op := by
  refine ⟨fun _ => ht, fun name h => ?_, fun name job h => absurd h (hspawn name job)⟩
  rw [hname] at h
  cases h

/-- A task is started once the list was given. -/
theorem ReconcileAsk.of_listed {records : List Record} (h : Registry.Listed t records)
    {op : Ask} (hop : op.isPrompt = true) : ReconcileAsk s t op := by
  refine ⟨fun hpause => ?_, fun name hname => ?_, fun name job _ => ⟨records, h⟩⟩
  · rw [hop] at hpause
    cases hpause
  · cases op with
    | request => cases hop
    | _ => cases hname

/-- The list is asked for until it is given or the budget is spent. -/
theorem fetch_ensures :
    (Registry.fetchWithRetry s.config.polling.registryAttempts
      s.config.polling.registryInterval).Ensures (ReconcileAsk s) (fun t r =>
        match r with
        | .error _ => Stopped s t
        | .ok none => Registry.Queried (listings s) t
        | .ok (some records) => Given s t records) [] := by
  refine Registry.Querying.fetchWithRetry (I := Registry.Queried) ⟨?_, ?_, ?_, ?_, ?_, ?_, ?_⟩
    Registry.queried_nil
  · -- Something is logged.
    exact fun n t e ht => ⟨.of_idle ht.spawned rfl (by simp), ht.snoc_idle rfl rfl⟩
  · -- The next request is waited for.
    intro n t hn ht
    refine ⟨.of_idle ht.spawned rfl (by simp), fun reply => ?_⟩
    have hwait : Registry.Queried n (t ++ [⟨.wait s.config.polling.registryInterval, reply⟩]) :=
      ht.snoc_idle rfl rfl
    cases reply with
    | error e => exact ⟨hwait.spawned, n, Nat.le_of_lt hn, hwait.requests⟩
    | ok _ => exact hwait
  · -- The list is asked for: the request fails, or the list is given, or it is not.
    intro n t hn ht
    refine ⟨fun _ => ht.spawned, fun name _ => ⟨rfl, n, hn, ht⟩, fun name job h => ?_⟩
    cases h
  · intro n t e hn ht
    refine ⟨?_, n + 1, hn, ?_⟩
    · simp [ht.spawned, Answer.spawned?]
    · simp [ht.requests, Ask.requestName?, List.replicate_succ']
  · exact fun n t r records hn ht hr => ⟨n, t, r, hn, ht, hr, rfl⟩
  · exact fun n t r hn ht hr => ht.snoc_missed hr
  · -- The budget is spent.
    exact fun t ht => ht

/-- A project is judged by the list and, if it is on the list, by its index. -/
theorem judge_ensures {records : List Record} (h : Given s t records) :
    (judge s project records).Ensures (ReconcileAsk s) (fun t' r =>
      match r with
      | .error _ => Stopped s t'
      | .ok d => ∃ looked, t' = t ++ looked ∧ Judged s project records looked d) t := by
  rw [judge]
  split
  · next hfind =>
    -- A project that is not on the list is judged by that alone.
    refine ⟨[], by simp, ?_⟩
    rw [Judged, hfind]
    exact ⟨rfl, rfl⟩
  · next record hfind =>
    rw [ensures_bind, ensures_assess]
    obtain ⟨hspawned, l, hl, hrequests⟩ := h.stopped
    refine ⟨.of_idle hspawned rfl (by simp), fun reply => ?_⟩
    cases reply with
    | error e =>
      exact ⟨by simp [hspawned, Answer.spawned?], l, hl, by simp [hrequests, Ask.requestName?]⟩
    | ok staleness =>
      refine ⟨[_], rfl, ?_⟩
      rw [Judged, hfind]
      exact ⟨staleness, rfl, rfl⟩

/-- A dispatch starts the tasks that the decision calls for, without pausing. -/
theorem dispatch_ensures {records : List Record} (h : Registry.Listed t records) (d : Decision) :
    (Dispatch.dispatch d project (some (indexOptions s project options))).Ensures (ReconcileAsk s)
      (fun t' r => (∃ ids, r = .ok ids) ∧ ∃ started, t' = t ++ started ∧
        (∀ a ∈ started, a.op.isPrompt = true) ∧
        started.spawned.map Prod.snd = jobs s project options d) t := by
  -- The list was read before, and that stays so whatever is started after it.
  have hlisted : ∀ u, Registry.Listed (t ++ u) records :=
    fun u => Registry.listed_append.2 (Or.inl h)
  cases d with
  | synced =>
    simp only [Dispatch.dispatch, ensures_bind, Program.log, ensures_emit, passing_ok, ensures_pure]
    refine ⟨.of_listed h rfl, ⟨_, rfl⟩, _, rfl, by simp [Ask.isPrompt], rfl⟩
  | refreshOnly =>
    simp only [Dispatch.dispatch, Dispatch.start, ensures_bind, Program.log, ensures_emit,
      ensures_spawn, passing_ok, ensures_pure]
    refine ⟨.of_listed h rfl, .of_listed (hlisted _) rfl, fun id => ⟨⟨_, rfl⟩, _,
      List.append_assoc _ _ _, by simp [Ask.isPrompt], rfl⟩⟩
  | fullRefreshAndWatch =>
    simp only [Dispatch.dispatch, Dispatch.start, ensures_bind, Program.log, ensures_emit,
      ensures_spawn, passing_ok, ensures_pure]
    refine ⟨.of_listed h rfl, .of_listed (hlisted _) rfl, fun id => ⟨?_, fun id' => ?_⟩⟩
    · rw [List.append_assoc]
      exact .of_listed (hlisted _) rfl
    · exact ⟨⟨_, rfl⟩, _, by rw [List.append_assoc, List.append_assoc], by simp [Ask.isPrompt], rfl⟩
  | registerFirst =>
    simp only [Dispatch.dispatch, ensures_bind, Program.log, ensures_emit, ensures_spawn,
      passing_ok, ensures_pure]
    refine ⟨.of_listed h rfl, .of_listed (hlisted _) rfl, fun id => ⟨⟨_, rfl⟩, _,
      List.append_assoc _ _ _, by simp [Ask.isPrompt], rfl⟩⟩

/-- Every reconciliation asks for the list, judges the project and starts what follows. -/
theorem reconcile_ensures (s : Setup) (project : Project) (options : Option Options) :
    (reconcile s project options).Ensures (ReconcileAsk s) (ReconcileEnd s project options) [] := by
  rw [reconcile, ensures_bind]
  refine fetch_ensures.weaken ?_
  rintro t (e | _ | records) ht
  · exact ht
  · exact Or.inl ⟨ht, rfl⟩
  · -- The list was given: the project is judged, and the decision is dispatched.
    simp only [passing_ok, ensures_bind]
    refine (judge_ensures ht).weaken ?_
    rintro t' (e | d) hr
    · exact hr
    · obtain ⟨looked, rfl, hjudged⟩ := hr
      rw [passing_ok]
      refine (dispatch_ensures (Registry.listed_append.2 (Or.inl ht.listed)) d).weaken ?_
      rintro t' r ⟨⟨ids, rfl⟩, started, rfl, hprompt, hjobs⟩
      exact Or.inr ⟨d, ⟨t, records, looked, started, rfl, ht, hjudged, hprompt, hjobs⟩, rfl⟩

end Activation

end IndexSync
