import IndexSync.Proofs.Activation.Reconciliation
import IndexSync.Proofs.Interleaving.Claims
import IndexSync.Proofs.Interleaving.History
import IndexSync.Proofs.Tasks

/-!
# Errands

The tasks that an activation starts for its decision, and those that they start, are its errands.
There is one for each action that the decision calls for, and it asks for that action once at most.

* `Interleaving.run_started` — what an activation has started follows from how it ended;
* `Interleaving.run_errands` — the errands of an activation have different actions, those of its
  decision;
* `Interleaving.Reachable.asked_errand` — an errand asks for its action once at most.
-/

namespace IndexSync

open Program

/-- The actions that a decision calls for. -/
def Decision.actions : Decision → List Action
  | .synced => []
  | .refreshOnly => [.refresh]
  | .fullRefreshAndWatch => [.refresh, .watch]
  | .registerFirst => [.register, .watch, .refresh]

/-- No decision calls for an action twice. -/
theorem Decision.nodup_actions (d : Decision) : d.actions.Nodup := by cases d <;> decide

namespace Job

/-- The action that a task has done. -/
def action? : Job → Option Action
  | .call action _ => some action
  | .chain _ => some .register
  | _ => none

/-- The settings with which a task has its action done. -/
def actionOptions : Job → Options
  | .call _ options => options
  | .chain options => options
  | _ => []

/-- When a task that has an action done asks what. -/
def ErrandAsk (crew : Crew) : Job → Dialogue → Ask → Prop
  | .call action options => Dispatch.CallAsk crew action options
  | .chain options => Dispatch.ChainAsk crew options
  | _ => fun _ _ => True

/-- How a task that has an action done ends. -/
def ErrandEnd (crew : Crew) : Job → Dialogue → Except Failure Job.Result → Prop
  | .call action options => Dispatch.CallEnd crew action options
  | .chain options => Dispatch.ChainEnd crew options
  | _ => fun _ _ => True

/-- Tasks that have an action done keep to that. -/
theorem program_errand (s : Setup) (job : Job) :
    (job.program s).Ensures (job.ErrandAsk s.crew) (job.ErrandEnd s.crew) [] := by
  have htrivial : ∀ p : Program Job.Result,
      p.Ensures (fun _ _ => True) (fun _ _ => True) [] := by
    intro p
    exact (ensures_leads p []).mono (fun _ _ _ => trivial) fun _ _ _ => trivial
  cases job with
  | call action options => exact Dispatch.call_ensures s action options
  | chain options => exact Dispatch.chain_ensures s options
  | _ => exact htrivial _

end Job

/-- The tasks of a decision have its actions done, in order. -/
theorem Dispatch.assignments_actions (o : Options) (d : Decision) :
    (Dispatch.assignments o d).map Job.action? = d.actions.map some := by
  cases d <;> rfl

namespace Activation

variable {s : Setup} {options : Option Options} {project : Project} {t : Dialogue}

/-- While a project is reconciled, the questions are those of a reconciliation. -/
theorem Inside.ask {op : Ask} {next : Except Failure op.Reply → Program Result}
    (h : Inside s options project t (.ask op next)) :
    ∃ before inside, t = before ++ ⟨.enter (s.key project), .ok true⟩ :: inside ∧
      Outside before ∧ ReconcileAsk s inside op := by
  obtain ⟨before, inside, rfl, hbefore, hleads⟩ := h
  have hrest := hleads.ensures (reconcile_ensures s project options)
  exact ⟨before, inside, rfl, hbefore, hrest.1⟩

/-- A project that was reconciled was reconciled to an end. -/
theorem Inside.done {r : Except Failure Result} (h : Inside s options project t (.done r)) :
    ∃ before inside, t = before ++ ⟨.enter (s.key project), .ok true⟩ :: inside ∧
      Outside before ∧ ReconcileEnd s project options inside r := by
  obtain ⟨before, inside, rfl, hbefore, hleads⟩ := h
  have hrest := hleads.ensures (reconcile_ensures s project options)
  exact ⟨before, inside, rfl, hbefore, hrest⟩

/-- What was started once a project was claimed was started by its reconciliation. -/
theorem Outside.spawned_append (h : Outside t) (free : Bool) (u : Dialogue) :
    Dialogue.spawned (t ++ ⟨.enter (s.key project), .ok free⟩ :: u) = u.spawned := by
  simp [h.spawned, Answer.spawned?]

/-- An activation pauses only before it starts tasks. -/
theorem GuardedAsk.spawned {op : Ask} (h : GuardedAsk s options t op) (hop : op.isPrompt = false) :
    t.spawned = [] := by
  rcases (guardedAsk_of_not_isGuard (Ask.isGuard_of_not_isPrompt hop)).1 h with
    ⟨hout, -⟩ | ⟨project, next, hinside⟩ | ⟨project, -, hprompt⟩
  · exact hout.spawned
  · obtain ⟨before, inside, rfl, hbefore, hask⟩ := hinside.ask
    rw [hbefore.spawned_append]
    exact hask.pause hop
  · rw [hop] at hprompt
    cases hprompt

/-- An activation that gave up its claim had reconciled the project to an end. -/
theorem Left.reconciled {r : Except Failure Result} (h : Left s options project t r) :
    ∃ before inside, t = before ++ ⟨.enter (s.key project), .ok true⟩ ::
        (inside ++ [⟨.leave (s.key project), .ok ()⟩]) ∧ Outside before ∧
      ReconcileEnd s project options inside r := by
  obtain ⟨u, rfl, hinside⟩ := h
  obtain ⟨before, inside, rfl, hbefore, hend⟩ := hinside.done
  exact ⟨before, inside, by simp, hbefore, hend⟩

/-- The dialogue of an activation that was ended by the dispatch of a decision. -/
def Closed (s : Setup) (options : Option Options) (t : Dialogue) (project : Project)
    (d : Decision) : Prop :=
  ∃ before inside, t = before ++ ⟨.enter (s.key project), .ok true⟩ ::
      (inside ++ [⟨.leave (s.key project), .ok ()⟩]) ∧ Outside before ∧
    Dispatched s project options inside d

/-- The tasks that were started are those that the decision calls for. -/
theorem Closed.spawned {d : Decision} (h : Closed s options t project d) :
    t.spawned.map Prod.snd = jobs s project options d := by
  obtain ⟨before, inside, rfl, hbefore, hdispatched⟩ := h
  rw [hbefore.spawned_append, Dialogue.spawned_append, List.map_append, hdispatched.spawned]
  simp [Answer.spawned?]

/-- An activation that has started tasks has done so for the decision it ends with. -/
theorem GuardedEnd.dispatched {result : Option Result} (h : GuardedEnd s options t result)
    (hne : t.spawned ≠ []) : ∃ project d, Closed s options t project d ∧
      result = some ⟨.dispatched, some project, some d⟩ := by
  rcases h with ⟨hout, -⟩ | ⟨project, ⟨before, after, rfl, hbefore, hafter⟩, -⟩ |
    ⟨project, r, hleft, hresult⟩
  · exact absurd hout.spawned hne
  · rw [hbefore.spawned_append, hafter.spawned] at hne
    exact absurd rfl hne
  · obtain ⟨before, inside, rfl, hbefore, hend⟩ := hleft.reconciled
    have hspawned : Dialogue.spawned inside ≠ [] := by
      rw [hbefore.spawned_append] at hne
      simpa [Answer.spawned?] using hne
    cases r with
    | error e => exact absurd hend.1 hspawned
    | ok result' =>
      rcases hend with ⟨hqueried, -⟩ | ⟨d, hdispatched, rfl⟩
      · exact absurd hqueried.spawned hspawned
      · exact ⟨project, d, ⟨before, inside, rfl, hbefore, hdispatched⟩, hresult⟩

/-- An activation that ends as dispatched has dispatched the decision it ends with. -/
theorem GuardedEnd.closed {result : Result} (h : GuardedEnd s options t (some result))
    (hstatus : result.status = .dispatched) : ∃ project d, Closed s options t project d ∧
      result = ⟨.dispatched, some project, some d⟩ := by
  rcases h with ⟨-, hnone⟩ | ⟨project, -, hrefused⟩ | ⟨project, r, hleft, hresult⟩
  · rw [hnone result rfl] at hstatus
    cases hstatus
  · rw [Option.some.inj hrefused] at hstatus
    cases hstatus
  · obtain ⟨before, inside, rfl, hbefore, hend⟩ := hleft.reconciled
    cases r with
    | error e => cases hresult
    | ok result' =>
      obtain rfl := Option.some.inj hresult
      rcases hend with ⟨-, rfl⟩ | ⟨d, hdispatched, rfl⟩
      · cases hstatus
      · exact ⟨project, d, ⟨before, inside, rfl, hbefore, hdispatched⟩, rfl⟩

/-- The tasks of a decision are those of its dispatch. -/
theorem jobs_eq (s : Setup) (project : Project) (options : Option Options) (d : Decision) :
    jobs s project options d = Dispatch.jobs (taskOptions s project options) d := by
  cases d <;> rfl

/-- The tasks of a decision have one action done each, or register the project. -/
theorem mem_jobs {d : Decision} {job : Job} (h : job ∈ jobs s project options d) :
    (∃ action o, job = .call action o) ∨ ∃ o, job = .chain o := by
  cases d with
  | synced => cases h
  | refreshOnly =>
    rw [jobs, List.mem_singleton] at h
    exact Or.inl ⟨_, _, h⟩
  | fullRefreshAndWatch =>
    simp only [jobs, List.mem_cons, List.not_mem_nil, or_false] at h
    rcases h with h | h
    · exact Or.inl ⟨_, _, h⟩
    · exact Or.inl ⟨_, _, h⟩
  | registerFirst =>
    rw [jobs, List.mem_singleton] at h
    exact Or.inr ⟨_, h⟩

end Activation

namespace Interleaving

variable {s : Setup} {x : Interleaving}

/-- A task that has an action done pauses only for that, and only at first. -/
theorem errandAsk_pause {job : Job} {action : Action} (hjob : job.action? = some action)
    {crew : Crew} {t : Dialogue} {op : Ask} (h : job.ErrandAsk crew t op)
    (hop : op.isPrompt = false) :
    t = [] ∧ Dispatch.Executes crew action job.actionOptions op := by
  cases job with
  | call a options =>
    obtain rfl := Option.some.inj hjob
    rcases h with h | ⟨e, rfl⟩
    · exact h
    · cases hop
  | chain options =>
    obtain rfl := Option.some.inj hjob
    exact h.pause hop
  | _ => cases hjob

/-- A task that has an action done asks for that once at most. -/
theorem Reachable.asked_errand (h : Reachable s x) {c : TaskId} {p : Party}
    (hp : x.parties[c]? = some p) {action : Action} (hjob : p.job.action? = some action) :
    x.asked c = [] ∨
      ∃ op, x.asked c = [op] ∧ Dispatch.Executes s.crew action p.job.actionOptions op := by
  obtain ⟨hpast, hrest⟩ := h.follows (Job.program_errand s) c p hp
  rw [h.recorded c]
  have hawaiting : x.awaiting c = p.state.pending :=
    awaiting_of_state? (state?_eq_some.2 ⟨p, hp, rfl⟩)
  have hblocked : ∀ op next, p.state = .blocked op next →
      x.dialogue c = [] ∧ Dispatch.Executes s.crew action p.job.actionOptions op := by
    intro op next hstate
    have hop := h.orderly.pauses c op next (state?_eq_some.2 ⟨p, hp, hstate⟩)
    rw [hstate] at hrest
    exact errandAsk_pause hjob hrest.1 hop
  cases hdialogue : x.dialogue c with
  | nil =>
    rw [hawaiting]
    cases hstate : p.state with
    | blocked op next => exact Or.inr ⟨op, rfl, (hblocked op next hstate).2⟩
    | ready program => exact Or.inl rfl
    | ended r => exact Or.inl rfl
  | cons b u =>
    -- Whatever came after the first question was answered on the spot.
    have hlater : Dialogue.pauses u = [] := by
      rw [Dialogue.pauses, List.filter_eq_nil_iff]
      intro op hop
      obtain ⟨a, ha, rfl⟩ := List.mem_map.1 hop
      obtain ⟨v, w, rfl⟩ := List.append_of_mem ha
      cases hprompt : a.op.isPrompt with
      | true => decide
      | false =>
        have hask := hpast (b :: v) a w (by rw [hdialogue]; rfl)
        cases (errandAsk_pause hjob hask hprompt).1
    have hnone : x.awaiting c = [] := by
      rw [hawaiting]
      cases hstate : p.state with
      | blocked op next =>
        have hnil := (hblocked op next hstate).1
        rw [hdialogue] at hnil
        cases hnil
      | ready program => rfl
      | ended r => rfl
    have hpauses : Dialogue.pauses (b :: u) = Dialogue.pauses [b] ++ Dialogue.pauses u :=
      Dialogue.pauses_append [b] u
    rw [hnone, List.append_nil, hpauses, hlater, List.append_nil]
    cases hprompt : b.op.isPrompt with
    | true => exact Or.inl (by simp [Dialogue.pauses, hprompt])
    | false =>
      have hask := hpast [] b u hdialogue
      exact Or.inr ⟨b.op, by simp [Dialogue.pauses, hprompt], (errandAsk_pause hjob hask hprompt).2⟩

/-- What a task that has an action done asks is the one question that has it done. -/
theorem Reachable.errand_of_asked (h : Reachable s x) {c : TaskId} {p : Party}
    (hp : x.parties[c]? = some p) {action : Action} (haction : p.job.action? = some action)
    {op : Ask} (hop : op ∈ x.asked c) :
    x.asked c = [op] ∧ Dispatch.Executes s.crew action p.job.actionOptions op := by
  rcases h.asked_errand hp haction with hnone | ⟨op', hone, hexec⟩
  · rw [hnone] at hop
    cases hop
  · rw [hone, List.mem_singleton] at hop
    subst hop
    exact ⟨hone, hexec⟩

/-- A task that has one action done starts no tasks. -/
theorem Reachable.spawns_call (h : Reachable s x) {c : TaskId} {p : Party}
    (hp : x.parties[c]? = some p) {action : Action} {options : Options}
    (hjob : p.job = .call action options) : x.spawns c = [] := by
  obtain ⟨hpast, -⟩ := h.follows (Job.program_errand s) c p hp
  rw [spawns, Dialogue.spawned, List.filterMap_eq_nil_iff]
  intro a ha
  obtain ⟨t, u, htu⟩ := List.append_of_mem ha
  have hask := hpast t a u htu
  rw [hjob] at hask
  rcases hask with ⟨-, hexec⟩ | ⟨e, he⟩
  · exact Answer.spawned?_of_not_isPrompt hexec.isPrompt
  · obtain ⟨op, reply⟩ := a
    obtain rfl : op = .emit e := he
    rfl

/-- A task that registers a project starts some of the tasks that follow, in order. -/
theorem Reachable.spawns_chain (h : Reachable s x) {c : TaskId} {p : Party}
    (hp : x.parties[c]? = some p) {options : Options} (hjob : p.job = .chain options) :
    (x.spawns c).map Prod.snd <+: Dispatch.followers options := by
  obtain ⟨-, hrest⟩ := h.follows (Job.program_errand s) c p hp
  rw [hjob] at hrest
  cases hstate : p.state.residual with
  | done r =>
    rw [hstate] at hrest
    rw [spawns, Dispatch.ChainEnd.started hrest]
    split
    · exact List.prefix_refl _
    · exact List.nil_prefix
  | ask op next =>
    rw [hstate] at hrest
    exact hrest.1.started

/-- Tasks, and those that they have started, with their jobs. -/
def company (x : Interleaving) (tasks : List (TaskId × Job)) : List (TaskId × Job) :=
  tasks ++ tasks.flatMap fun b => x.spawns b.1

/-- The tasks of a decision and those that they have started are the ones that the decision can come
to, in order. -/
theorem Reachable.company_jobs (h : Reachable s x) {tasks : List (TaskId × Job)} {o : Options}
    {d : Decision} (htasks : tasks.map Prod.snd = Dispatch.jobs o d)
    (hparty : ∀ e ∈ tasks, ∃ p, x.parties[e.1]? = some p ∧ p.job = e.2) :
    (x.company tasks).map Prod.snd <+: Dispatch.assignments o d := by
  have hcall : ∀ c action o, (c, .call action o) ∈ tasks → x.spawns c = [] := by
    intro c action o hc
    obtain ⟨q, hq, hqjob⟩ := hparty _ hc
    exact h.spawns_call hq hqjob
  rw [company]
  cases d with
  | synced =>
    rw [Dispatch.jobs, List.map_eq_nil_iff] at htasks
    rw [htasks]
    exact List.nil_prefix
  | refreshOnly =>
    simp only [Dispatch.jobs, List.map_eq_cons_iff, List.map_eq_nil_iff] at htasks
    obtain ⟨⟨c, job⟩, _, rfl, rfl, rfl⟩ := htasks
    have hc : x.spawns c = [] := hcall c .refresh _ List.mem_cons_self
    simp [hc, Dispatch.assignments, Dispatch.jobs]
  | fullRefreshAndWatch =>
    simp only [Dispatch.jobs, List.map_eq_cons_iff, List.map_eq_nil_iff] at htasks
    obtain ⟨⟨c, job⟩, _, rfl, rfl, ⟨c', job'⟩, _, rfl, rfl, rfl⟩ := htasks
    have hc : x.spawns c = [] := hcall c .refresh _ List.mem_cons_self
    have hc' : x.spawns c' = [] := hcall c' .watch _ (List.mem_cons_of_mem _ List.mem_cons_self)
    simp [hc, hc', Dispatch.assignments, Dispatch.jobs]
  | registerFirst =>
    simp only [Dispatch.jobs, List.map_eq_cons_iff, List.map_eq_nil_iff] at htasks
    obtain ⟨⟨c, job⟩, _, rfl, rfl, rfl⟩ := htasks
    obtain ⟨q, hq, hqjob⟩ := hparty _ List.mem_cons_self
    -- The registration comes first, and then some of the tasks that follow it.
    simp only [List.flatMap_cons, List.flatMap_nil, List.append_nil, List.singleton_append,
      List.map_cons, Dispatch.assignments, Dispatch.jobs, if_true]
    exact List.cons_prefix_cons.2 ⟨rfl, h.spawns_chain hq hqjob⟩

section Run

variable {moves : List Move} {a : TaskId} {p : Party} {options : Option Options}

/-- An activation that has started tasks has ended, and has done so for its decision. -/
theorem run_started (hp : (run s moves).parties[a]? = some p)
    (hjob : p.job.activation? = some options) (hne : (run s moves).spawns a ≠ []) :
    ∃ project d, Activation.Closed s options ((run s moves).dialogue a) project d ∧
      p.state = .ended (.ok (.activation (some ⟨.dispatched, some project, some d⟩))) ∧
      ((run s moves).spawns a).map Prod.snd = Activation.jobs s project options d := by
  have hx := run_reachable s moves
  obtain ⟨r, hr⟩ : ∃ r, p.state = .ended r := by
    by_contra hnot
    -- While an activation pauses, it has not started anything yet.
    refine hne ?_
    have hpausing := run_pausing (Job.program_guarded s) hp fun r hr => hnot ⟨r, hr⟩
    simp only [Job.GuardedAsk, hjob] at hpausing
    rw [spawns]
    rcases hpausing with hnil | ⟨op, -, -, hop, hask⟩ | ⟨t, b, htb, hb, hask⟩
    · rw [hnil, Dialogue.spawned_nil]
    · exact hask.spawned hop
    · rw [htb, Dialogue.spawned_append, hask.spawned hb]
      simp [Answer.spawned?_of_not_isPrompt hb]
  obtain ⟨-, hrest⟩ := hx.follows (Job.program_guarded s) a p hp
  rw [hr, Task.State.residual, ensures_done, Job.GuardedEnd, hjob] at hrest
  obtain ⟨project, d, hclosed, hresult⟩ := hrest.dispatched hne
  refine ⟨project, d, hclosed, ?_, hclosed.spawned⟩
  rw [hr, Job.Result.eq_of_activation? hresult]

/-- The tasks that an activation has started, and those that they have started, with their jobs. -/
def errands (x : Interleaving) (a : TaskId) : List (TaskId × Job) :=
  x.spawns a ++ (x.spawns a).flatMap fun b => x.spawns b.1

/-- Only an activation that has started tasks has errands. -/
theorem spawns_ne_nil_of_mem_errands {x : Interleaving} {a : TaskId} {e : TaskId × Job}
    (h : e ∈ x.errands a) : x.spawns a ≠ [] := by
  intro hnil
  rw [errands, hnil] at h
  cases h

/-- The errands of an activation are tasks that its decision can come to, in order. -/
theorem run_errand_jobs (hp : (run s moves).parties[a]? = some p)
    (hjob : p.job.activation? = some options) (hne : (run s moves).spawns a ≠ []) :
    ∃ project d, p.state = .ended (.ok (.activation (some ⟨.dispatched, some project, some d⟩))) ∧
      ((run s moves).errands a).map Prod.snd <+:
        Dispatch.assignments (Activation.taskOptions s project options) d := by
  have hx := run_reachable s moves
  obtain ⟨project, d, -, hstate, hjobs⟩ := run_started hp hjob hne
  rw [Activation.jobs_eq] at hjobs
  exact ⟨project, d, hstate, hx.company_jobs hjobs fun e he => hx.kinship.exists_party he⟩

/-- The errands of an activation have different actions, those of its decision. -/
theorem run_errands (hp : (run s moves).parties[a]? = some p)
    (hjob : p.job.activation? = some options) (hne : (run s moves).spawns a ≠ []) :
    ∃ project d, p.state = .ended (.ok (.activation (some ⟨.dispatched, some project, some d⟩))) ∧
      ((run s moves).errands a).map (fun e => e.2.action?) <+: d.actions.map some := by
  obtain ⟨project, d, hstate, hjobs⟩ := run_errand_jobs hp hjob hne
  refine ⟨project, d, hstate, ?_⟩
  have hactions := hjobs.map Job.action?
  rw [List.map_map, Dispatch.assignments_actions] at hactions
  exact hactions

/-- An errand has an action done, one of the decision that the activation has ended with. -/
theorem run_errand_action (hp : (run s moves).parties[a]? = some p)
    (hjob : p.job.activation? = some options) {c : TaskId} {job : Job}
    (hmem : (c, job) ∈ (run s moves).errands a) :
    ∃ action, job.action? = some action ∧ ∃ project d,
      p.state = .ended (.ok (.activation (some ⟨.dispatched, some project, some d⟩))) ∧
      action ∈ d.actions := by
  obtain ⟨project, d, hstate, hactions⟩ :=
    run_errands hp hjob (spawns_ne_nil_of_mem_errands hmem)
  obtain ⟨action, hin, haction⟩ : ∃ action ∈ d.actions, some action = job.action? :=
    List.mem_map.1 (hactions.subset (List.mem_map.2 ⟨_, hmem, rfl⟩))
  exact ⟨action, haction.symm, project, d, hstate, hin⟩

/-- What is started by a task that an activation has started follows a registration. -/
theorem run_follower (hp : (run s moves).parties[a]? = some p)
    (hjob : p.job.activation? = some options) {b c : TaskId} {job job' : Job}
    (hb : (b, job) ∈ (run s moves).spawns a) (hc : (c, job') ∈ (run s moves).spawns b) :
    ∃ action o, job' = .call action o ∧ action ≠ .register := by
  have hx := run_reachable s moves
  obtain ⟨project, d, -, -, hjobs⟩ := run_started hp hjob (List.ne_nil_of_mem hb)
  obtain ⟨q, hq, rfl⟩ := hx.kinship.exists_party hb
  have hmem : q.job ∈ Activation.jobs s project options d := by
    rw [← hjobs]
    exact List.mem_map_of_mem hb
  rcases Activation.mem_jobs hmem with ⟨action, o, hcall⟩ | ⟨o, hchain⟩
  · rw [hx.spawns_call hq hcall] at hc
    cases hc
  · have hfollows : job' ∈ Dispatch.followers o :=
      (hx.spawns_chain hq hchain).subset (List.mem_map_of_mem hc)
    simp only [Dispatch.followers, List.mem_cons, List.not_mem_nil, or_false] at hfollows
    rcases hfollows with hwatch | hrefresh
    · exact ⟨_, _, hwatch, by decide⟩
    · exact ⟨_, _, hrefresh, by decide⟩

/-- What an errand starts is an errand as well. -/
theorem run_errands_closed (hp : (run s moves).parties[a]? = some p)
    (hjob : p.job.activation? = some options) {b c : Nat} {job job' : Job}
    (hb : (b, job) ∈ (run s moves).errands a) (hc : (c, job') ∈ (run s moves).spawns b) :
    (c, job') ∈ (run s moves).errands a := by
  have hx := run_reachable s moves
  rcases List.mem_append.1 hb with hb | hb
  · exact List.mem_append_right _ (List.mem_flatMap.2 ⟨_, hb, hc⟩)
  · -- The errands of errands follow a registration, and they start nothing.
    exfalso
    obtain ⟨⟨e, j⟩, he, hb⟩ := List.mem_flatMap.1 hb
    obtain ⟨action, o, hcall, -⟩ := run_follower hp hjob he hb
    obtain ⟨q, hq, rfl⟩ := hx.kinship.exists_party hb
    rw [hx.spawns_call hq hcall] at hc
    cases hc

/-- Whatever is attributed to an activation, apart from itself, is one of its errands. -/
theorem run_mem_errands (hp : (run s moves).parties[a]? = some p)
    (hjob : p.job.activation? = some options) {c : Nat} {job : Job}
    (hc : (run s moves).kin? c = some (job, a)) (hne : c ≠ a) :
    (c, job) ∈ (run s moves).errands a := by
  have hx := run_reachable s moves
  -- By the numbers of tasks: whoever has started a task has a lower one.
  induction c using Nat.strongRecOn generalizing job with
  | ind c ih =>
    rcases hx.kinship.parent c a job hc with rfl | ⟨b, hb, hab⟩
    · exact absurd rfl hne
    · by_cases hba : b = a
      · rw [hba] at hb
        exact List.mem_append_left _ hb
      · obtain ⟨hlt, -⟩ := hx.kinship.started b c job hb
        obtain ⟨k, hk⟩ : ∃ k, (run s moves).kin? b = some k := by
          cases hkin : (run s moves).kin? b with
          | none =>
            rw [originOf_eq, hkin] at hab
            exact absurd hab.symm hba
          | some k => exact ⟨k, rfl⟩
        obtain ⟨jb, o⟩ := k
        obtain rfl : o = a := by
          rw [originOf_eq, hk] at hab
          exact hab.symm
        exact run_errands_closed hp hjob (ih b hlt hk hba) hb

end Run

end Interleaving

end IndexSync
