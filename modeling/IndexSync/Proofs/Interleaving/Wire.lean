import IndexSync.Proofs.Interleaving.Registration

/-!
# Requests on the wire

What an activation has the service do is determined by the project it found and by its decision.
The settings that the host passes along reach every task that has an action done, but they take no
part in the requests: the root, the manifest, the index and the scope are filled in on the way.

* `Activation.wire s project d action` — the parameters of the request for an action;
* `Activation.Handed` — the settings with which an action is done, given those of the host;
* `Interleaving.requests_determined` — every request that is sent on behalf of an activation has the
  parameters that its project and its decision determine, whatever settings the host passed.
-/

namespace IndexSync

open Program

namespace Activation

variable {s : Setup} {project : Project} {options : Option Options} {d : Decision}
  {action : Action} {handed : Options}

/-- The settings that are filled in for a project; all others are the host's. -/
def filledIn : List Setting := [.projectRoot, .manifestPath, .indexPath, .scope]

/-- How much of the index is refreshed for a decision. -/
def scopeFor (d : Decision) : Scope := if d = .refreshOnly then .incremental else .full

/-- The parameters of the request for an action that a decision about a project calls for. -/
def wire (s : Setup) (project : Project) (d : Decision) : Action → Options
  | .register =>
    [(Setting.root.key, .str project.root.text),
      (Setting.manifestPath.key, .str project.manifest.text),
      (Setting.indexPath.key, .str (s.indexFile project.root).text)]
  | .refresh =>
    [(Setting.root.key, .str project.root.text), (Setting.scope.key, .str (scopeFor d).name)]
  | .watch => [(Setting.root.key, .str project.root.text)]

/-- The settings with which an action is done for a decision about a project, when the host passed
settings of its own. -/
structure Handed (s : Setup) (project : Project) (options : Option Options) (d : Decision)
    (action : Action) (handed : Options) : Prop where
  /-- The root is that of the project. -/
  root : handed.get? Setting.projectRoot.key = some (.str project.root.text)
  /-- The manifest is that of the project. -/
  manifest : handed.get? Setting.manifestPath.key = some (.str project.manifest.text)
  /-- The index is in the file that is looked at to judge the project. -/
  index : handed.get? Setting.indexPath.key = some (.str (s.indexFile project.root).text)
  /-- The scope of a refresh is full, or left to the default. -/
  scope : action = .refresh → handed.get? Setting.scope.key =
    if d = .refreshOnly then none else some (.str Scope.full.name)
  /-- All other settings are the host's. -/
  others : ∀ key, key ∉ filledIn.map Setting.key → handed.get? key = (options.getD []).get? key

/-- A setting of a task is filled in for the project, or it is the host's. -/
theorem get?_taskOptions (key : String) :
    (taskOptions s project options).get? key =
      if key = Setting.manifestPath.key then some (.str project.manifest.text)
      else if key = Setting.projectRoot.key then some (.str project.root.text)
      else if key = Setting.indexPath.key then some (.str (s.indexFile project.root).text)
      else (options.getD []).get? key := by
  rw [taskOptions, Dispatch.projectOptions, Options.get?_put, Options.get?_put, Option.getD_some,
    indexOptions, Options.get?_put]

/-- Settings that differ from those of a decision in the scope at most are handed over as they
should be. -/
theorem Handed.of_scope
    (hsame : ∀ key, key ≠ Setting.scope.key →
      handed.get? key = (taskOptions s project options).get? key)
    (hscope : action = .refresh → handed.get? Setting.scope.key =
      if d = .refreshOnly then none else some (.str Scope.full.name)) :
    Handed s project options d action handed := by
  refine ⟨?_, ?_, ?_, hscope, fun key hkey => ?_⟩
  · rw [hsame _ (by decide), get?_taskOptions, if_neg (by decide), if_pos rfl]
  · rw [hsame _ (by decide), get?_taskOptions, if_pos rfl]
  · rw [hsame _ (by decide), get?_taskOptions, if_neg (by decide), if_neg (by decide), if_pos rfl]
  · simp only [filledIn, List.map_cons, List.map_nil, List.mem_cons, List.not_mem_nil, or_false,
      not_or] at hkey
    obtain ⟨hroot, hmanifest, hindex, hscope⟩ := hkey
    rw [hsame key hscope, get?_taskOptions, if_neg hmanifest, if_neg hroot, if_neg hindex]

/-- Settings that are handed over give the parameters that the project and the decision determine.
-/
theorem Handed.params (h : Handed s project options d action handed) :
    action.params (.str project.root.text) handed = wire s project d action := by
  cases action with
  | register =>
    simp [Action.params, Action.optional, wire, h.manifest, h.index]
  | watch => rfl
  | refresh =>
    have hscope : Action.scopeOf handed = .str (scopeFor d).name := by
      rw [Action.scopeOf, Action.optional, h.scope rfl, scopeFor]
      split
      · rfl
      · rfl
    simp [Action.params, wire, hscope]

/-- An action that is done with settings that are handed over is one that the host does, or the
service is sent the request that the project and the decision determine. -/
theorem Handed.executes (h : Handed s project options d action handed) {crew : Crew} {op : Ask}
    (hexec : Dispatch.Executes crew action handed op) :
    action ∉ crew ∧ op = .request action.name (wire s project d action) ∨
      action ∈ crew ∧ op = .perform action handed := by
  rcases hexec with ⟨hcrew, root, hroot, rfl⟩ | hperform
  · -- The root that is sent is the one that was filled in.
    obtain rfl := Option.some.inj (h.root.symm.trans hroot)
    rw [h.params]
    exact Or.inl ⟨hcrew, rfl⟩
  · exact Or.inr hperform

/-- The settings of the host, for actions other than a refresh. -/
theorem handed_taskOptions (hne : action ≠ .refresh) :
    Handed s project options d action (taskOptions s project options) :=
  .of_scope (fun _ _ => rfl) fun h => absurd h hne

/-- The settings of the host with the full scope, for a refresh that is not about changes only. -/
theorem handed_fullScope (hd : d ≠ .refreshOnly) :
    Handed s project options d action (Dispatch.fullScope (taskOptions s project options)) := by
  refine .of_scope (fun key hkey => ?_) fun _ => ?_
  · rw [Dispatch.fullScope, Options.get?_put, if_neg hkey]
  · rw [Dispatch.fullScope, Options.get?_put, if_pos rfl, if_neg hd]

/-- The settings of the host without a scope, for a refresh that is about changes only. -/
theorem handed_erase :
    Handed s project options .refreshOnly action
      ((taskOptions s project options).erase Setting.scope.key) := by
  refine .of_scope (fun key hkey => ?_) fun _ => ?_
  · rw [Options.get?_erase, if_neg hkey]
  · rw [Options.get?_erase, if_pos rfl, if_pos rfl]

/-- Every task of a decision has an action of the decision done, with settings that are handed over
as they should be. -/
theorem assignments_handed {job : Job}
    (h : job ∈ Dispatch.assignments (taskOptions s project options) d) :
    ∃ action ∈ d.actions, job.action? = some action ∧
      Handed s project options d action job.actionOptions := by
  cases d with
  | synced => cases h
  | refreshOnly =>
    obtain rfl := List.mem_singleton.1 h
    exact ⟨.refresh, by decide, rfl, handed_erase⟩
  | fullRefreshAndWatch =>
    simp only [Dispatch.assignments, Dispatch.jobs, reduceCtorEq, if_false, List.append_nil,
      List.mem_cons, List.not_mem_nil, or_false] at h
    rcases h with rfl | rfl
    · exact ⟨.refresh, by decide, rfl, handed_fullScope (by decide)⟩
    · exact ⟨.watch, by decide, rfl, handed_taskOptions (by decide)⟩
  | registerFirst =>
    simp only [Dispatch.assignments, Dispatch.jobs, Dispatch.followers, if_true, List.cons_append,
      List.nil_append, List.mem_cons, List.not_mem_nil, or_false] at h
    rcases h with rfl | rfl | rfl
    · exact ⟨.register, by decide, rfl, handed_taskOptions (by decide)⟩
    · exact ⟨.watch, by decide, rfl, handed_taskOptions (by decide)⟩
    · exact ⟨.refresh, by decide, rfl, handed_fullScope (by decide)⟩

end Activation

/-- A task that has an action done executes it with its settings, before anything else. -/
theorem Job.program_execute (s : Setup) {job : Job} {action : Action}
    (h : job.action? = some action) :
    ∃ rest, job.program s =
      (Dispatch.execute s.crew action job.actionOptions).attempt >>= rest := by
  cases job with
  | call action' options =>
    obtain rfl := Option.some.inj h
    exact ⟨_, bind_bind _ _ _⟩
  | chain options =>
    obtain rfl := Option.some.inj h
    rw [Job.program, Dispatch.chainProgram, Dispatch.register]
    exact ⟨_, (bind_bind _ _ _).trans (bind_bind _ _ _)⟩
  | _ => cases h

namespace Interleaving

variable {s : Setup} {x : Interleaving}

/-- What an activation pauses for is a probe, or it is asked while a project is reconciled. -/
theorem Reachable.asked_guarded (h : Reachable s x) {a : TaskId} {p : Party}
    (hp : x.parties[a]? = some p) {options : Option Options}
    (hjob : p.job.activation? = some options) {op : Ask} (hop : op ∈ x.asked a) :
    op.isProbe = true ∨
      ∃ project next t, Activation.Inside s options project t (.ask op next) := by
  obtain ⟨pre, post, hsplit⟩ := List.append_of_mem (mem_asked.1 hop)
  obtain ⟨-, -, -, -, -, hprompt, -⟩ := h.snapshot hsplit
  have hask := h.asked_fits (Job.program_guarded s) hsplit hp
  rw [Job.GuardedAsk, hjob] at hask
  rcases (Activation.guardedAsk_of_not_isGuard (Ask.isGuard_of_not_isPrompt hprompt)).1 hask with
    ⟨-, hprobe⟩ | ⟨project, next, hinside⟩ | ⟨project, -, hrefused⟩
  · exact Or.inl hprobe
  · exact Or.inr ⟨project, next, _, hinside⟩
  · -- What is told after a refusal is answered on the spot.
    rw [hprompt] at hrefused
    cases hrefused

/-- An activation pauses for no action, and it looks at the index of a root in its file only. -/
theorem Reachable.asked_activation (h : Reachable s x) {a : TaskId} {p : Party}
    (hp : x.parties[a]? = some p) {options : Option Options}
    (hjob : p.job.activation? = some options) {op : Ask} (hop : op ∈ x.asked a) :
    (∀ (action : Action) params, op ≠ .request action.name params) ∧
      ∀ root file stored, op = .assess root file stored → file = s.indexFile root := by
  rcases h.asked_guarded hp hjob hop with hprobe | ⟨project, next, t, hinside⟩
  · -- To reach the service, it is sent nothing but probes.
    refine ⟨fun action params heq => ?_, fun root file stored heq => ?_⟩
    · subst heq
      cases action <;> simp [Ask.isProbe, Action.name, Poll.pingRequest] at hprobe
    · subst heq
      cases hprobe
  · refine ⟨fun action params heq => ?_, ?_⟩
    · obtain ⟨before, inside, -, -, hreconcile⟩ := hinside.ask
      obtain ⟨hlisting, -⟩ := hreconcile.request action.name (by rw [heq]; rfl)
      have hname : action.name = Registry.listRequest :=
        Option.some.inj (congrArg Ask.requestName? (heq.symm.trans hlisting))
      cases action <;> exact absurd hname (by decide)
    · obtain ⟨before, inside, -, -, hleads⟩ := hinside
      have honly : (Activation.reconcile s project options).Only fun op =>
          ∀ root file stored, op = .assess root file stored → file = s.indexFile root := by
        refine Activation.reconcile_only (by simp) (by simp) (by simp) (by simp) ?_
        rintro stored root file stored' ⟨⟩
        rfl
      exact (hleads.ensures (honly.ensures [])).1

section Run

variable {moves : List Move} {a c : TaskId} {p : Party} {options : Option Options}

/-- A task that has an action done for an activation does so for its decision, with settings that
are handed over as they should be, and asks for nothing but that. -/
theorem run_errand_handed (hp : (run s moves).parties[a]? = some p)
    (hjob : p.job.activation? = some options) {job : Job}
    (hkin : (run s moves).kin? c = some (job, a)) (hne : c ≠ a) :
    ∃ project d action,
      p.state = .ended (.ok (.activation (some ⟨.dispatched, some project, some d⟩))) ∧
      action ∈ d.actions ∧ job.action? = some action ∧
      Activation.Handed s project options d action job.actionOptions ∧
      ∀ op ∈ (run s moves).asked c, op = .request action.name (Activation.wire s project d action) ∨
        action ∈ s.crew ∧ op = .perform action job.actionOptions := by
  have hmem := run_mem_errands hp hjob hkin hne
  obtain ⟨project, d, hstate, hjobs⟩ :=
    run_errand_jobs hp hjob (spawns_ne_nil_of_mem_errands hmem)
  obtain ⟨action, hin, haction, hhanded⟩ :=
    Activation.assignments_handed (hjobs.subset (List.mem_map_of_mem hmem))
  refine ⟨project, d, action, hstate, hin, haction, hhanded, fun op hop => ?_⟩
  obtain ⟨q, hq, rfl, -⟩ := exists_party_of_kin? hkin
  obtain ⟨-, hexec⟩ := (run_reachable s moves).errand_of_asked hq haction hop
  exact (hhanded.executes hexec).imp_left And.right

end Run

/-- What an activation, given settings of the host, brings to the service. -/
structure Determined (s : Setup) (x : Interleaving) (a : TaskId) (p : Party)
    (options : Option Options) : Prop where
  /-- A request for an action is sent on behalf of the activation only once it has ended with a
  decision that calls for the action, and with the parameters that the project and the decision
  determine. -/
  request : ∀ (c : TaskId) (action : Action) params, x.originOf c = a →
    .request action.name params ∈ x.asked c → ∃ project d,
      p.state = .ended (.ok (.activation (some ⟨.dispatched, some project, some d⟩))) ∧
      action ∈ d.actions ∧ params = Activation.wire s project d action
  /-- Whoever looks at the index of a root looks at the file that a registration of it names. -/
  assess : ∀ (c : TaskId) (q : Party) root file stored, x.parties[c]? = some q →
    q.job.isActivation = true → .assess root file stored ∈ x.asked c → file = s.indexFile root
  /-- Every other task of the activation executes an action of the decision with the settings of the
  host, apart from those that are filled in. -/
  execute : ∀ (c : TaskId) job, x.kin? c = some (job, a) → c ≠ a → ∃ project d action,
    p.state = .ended (.ok (.activation (some ⟨.dispatched, some project, some d⟩))) ∧
    action ∈ d.actions ∧
    (∃ rest, job.program s =
      (Dispatch.execute s.crew action job.actionOptions).attempt >>= rest) ∧
    Activation.Handed s project options d action job.actionOptions
  /-- The settings of the host stay as they are, whatever happens later. -/
  unchanged : ∀ later : List Move, ∃ q,
    (later.foldl move x).parties[a]? = some q ∧ q.job.activation? = some options

/-- Whatever settings the host passes to an activation, the requests that are sent on its behalf are
determined by its project and its decision. -/
theorem requests_determined (s : Setup) (moves : List Move) (a : TaskId) (p : Party)
    (hp : (run s moves).parties[a]? = some p) (options : Option Options)
    (hjob : p.job.activation? = some options) :
    Determined s (run s moves) a p options := by
  have hx := run_reachable s moves
  refine ⟨fun c action params hc hasked => ?_, fun c q root file stored hq hactivation hasked => ?_,
    fun c job hkin hne => ?_, fun later => ?_⟩
  · -- What is sent for the activation, and not by it, is sent by an errand.
    obtain ⟨q, hq⟩ := hx.exists_of_asked (mem_asked.1 hasked)
    have hne : c ≠ a := by
      rintro rfl
      exact (hx.asked_activation hp hjob hasked).1 action params rfl
    have hkin : (run s moves).kin? c = some (q.job, a) := by
      rw [originOf, hq] at hc
      rw [kin?, hq]
      exact congrArg some (Prod.ext rfl hc)
    obtain ⟨project, d, action', hstate, hin, -, -, hops⟩ := run_errand_handed hp hjob hkin hne
    rcases hops _ hasked with heq | ⟨-, heq⟩
    · obtain ⟨hname, rfl⟩ := Ask.request.inj heq
      obtain rfl := action_name_inj hname
      exact ⟨project, d, hstate, hin, rfl⟩
    · cases heq
  · obtain ⟨options', hjob'⟩ := Job.exists_activation? hactivation
    exact (hx.asked_activation hq hjob' hasked).2 root file stored rfl
  · obtain ⟨project, d, action, hstate, hin, haction, hhanded, -⟩ :=
      run_errand_handed hp hjob hkin hne
    exact ⟨project, d, action, hstate, hin, Job.program_execute s haction, hhanded⟩
  · -- What job a task does never changes.
    have hkin : (run s moves).kin? a = some (p.job, p.origin) := by rw [kin?, hp]; rfl
    have hlater := kin?_foldl_move later hkin
    rw [kin?, Option.map_eq_some_iff] at hlater
    obtain ⟨q, hq, hqkin⟩ := hlater
    refine ⟨q, hq, ?_⟩
    rw [(Prod.mk.inj hqkin).1]
    exact hjob

section Contrary

/-- Settings of a host that name another project, another index and another scope. -/
def contrary : Options :=
  [(Setting.projectRoot.key, .str "/q"), (Setting.manifestPath.key, .str "/q/q.uproject"),
    (Setting.indexPath.key, .str "/q.db"), (Setting.scope.key, .str "None"), ("menu", .bool true)]

/-- An activation with these settings goes through, and the project is registered, watched and
refreshed. -/
def contrarily : List Move :=
  let turn (c : TaskId) : List Move := [.go c, .reply c obliging]
  .start (.activation (some contrary)) :: (turn 0 ++ turn 0 ++ turn 0 ++ turn 0) ++
    [.go 0] ++ turn 1 ++ [.go 1, .go 2, .go 3]

/-- The project that the user is in is refreshed in full, and not the one that the host names. -/
theorem contrarily_determined : ∃ p project d,
    (run .standard contrarily).parties[0]? = some p ∧ p.job.activation? = some (some contrary) ∧
    p.state = .ended (.ok (.activation (some ⟨.dispatched, some project, some d⟩))) ∧
    project.root.text = "/p" ∧ (run .standard contrarily).asked 3 =
      [.request Action.refresh.name (Activation.wire .standard project d .refresh)] := by
  have hasked : (run .standard contrarily).asked 3 = [.request Action.refresh.name
      [(Setting.root.key, .str "/p"), (Setting.scope.key, .str Scope.full.name)]] := rfl
  have hdetermined := requests_determined .standard contrarily 0 _ rfl (some contrary) rfl
  obtain ⟨project, d, hstate, -, hparams⟩ := hdetermined.request 3 .refresh _ rfl
    (by rw [hasked]; exact List.mem_cons_self)
  have hroot : project.root.text = "/p" := by
    have hvalue := (List.cons.inj hparams).1
    simp only [Prod.mk.injEq, Value.str.injEq, true_and] at hvalue
    exact hvalue.symm
  exact ⟨_, project, d, rfl, rfl, hstate, hroot, by rw [hasked, hparams]⟩

end Contrary

end Interleaving

end IndexSync
