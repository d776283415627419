import IndexSync.Activation.Jobs
import IndexSync.Proofs.Dialogue

/-!
# The tasks of a decision

A task that has an action done asks for it once, right at its start, and starts no tasks. A task
that registers a project asks for the registration once, right at its start, and if that succeeds it
starts the tasks that watch and refresh the project, in this order. Neither fails.

* `Dispatch.Executes` — the questions that have an action done;
* `Answer.succeeded` — the answers that tell of a success;
* `Dispatch.call_ensures` and `Dispatch.chain_ensures` — what the two kinds of task keep to.
-/

namespace IndexSync

open Program

/-- An action was asked for and is a success. -/
def Answer.succeeded : Answer → Bool
  | ⟨.request _ _, .ok response⟩ => response.ok
  | ⟨.perform _ _, .ok v⟩ => v.truthy
  | _ => false

/-- The action that a task asked for first is a success. -/
def Dialogue.succeeded (t : Dialogue) : Bool := t.head?.any Answer.succeeded

/-- How an execution ends tells whether it is a success. -/
def Dispatch.isSuccess : Except Failure Value → Bool
  | .ok v => v.truthy
  | .error _ => false

@[simp]
theorem Dialogue.succeeded_nil : Dialogue.succeeded [] = false := rfl

@[simp]
theorem Dialogue.succeeded_cons (a : Answer) (t : Dialogue) :
    Dialogue.succeeded (a :: t) = a.succeeded := rfl

/-- An answer that tells of no success makes none. -/
theorem Dialogue.succeeded_snoc (t : Dialogue) {a : Answer} (ha : a.succeeded = false) :
    Dialogue.succeeded (t ++ [a]) = t.succeeded := by
  cases t with
  | nil => exact ha
  | cons b u => rfl

namespace Dispatch

variable {crew : Crew} {action : Action} {options : Options} {t : Dialogue}

/-- A question that has an action done: the service is asked for it, on behalf of the root that the
settings name, unless the host does it. -/
def Executes (crew : Crew) (action : Action) (options : Options) (op : Ask) : Prop :=
  (action ∉ crew ∧ ∃ root, options.get? Setting.projectRoot.key = some root ∧
    op = .request action.name (action.params root options)) ∨
  (action ∈ crew ∧ op = .perform action options)

/-- The question that has an action done is no question that is answered on the spot. -/
theorem Executes.isPrompt {op : Ask} (h : Executes crew action options op) :
    op.isPrompt = false := by
  rcases h with ⟨-, root, -, rfl⟩ | ⟨-, rfl⟩
  · rfl
  · rfl

/-- The question that has an action done sends the request of that name, if it sends any. -/
theorem Executes.requestName? {op : Ask} (h : Executes crew action options op) {name : String}
    (hname : op.requestName? = some name) : name = action.name := by
  rcases h with ⟨-, root, -, rfl⟩ | ⟨-, rfl⟩
  · exact (Option.some.inj hname).symm
  · cases hname

/-- When a task that has an action done asks what. -/
def CallAsk (crew : Crew) (action : Action) (options : Options) (t : Dialogue) (op : Ask) : Prop :=
  (t = [] ∧ Executes crew action options op) ∨ ∃ e, op = .emit e

/-- The tasks that follow a registration. -/
def followers (options : Options) : List Job :=
  [.call .watch options, .call .refresh (fullScope options)]

/-- The tasks that a decision calls for, with the settings that are passed to them. -/
def jobs (options : Options) : Decision → List Job
  | .synced => []
  | .refreshOnly => [.call .refresh (options.erase Setting.scope.key)]
  | .fullRefreshAndWatch => [.call .refresh (fullScope options), .call .watch options]
  | .registerFirst => [.chain options]

/-- The tasks that a decision can come to, those that follow a registration included. -/
def assignments (options : Options) (d : Decision) : List Job :=
  jobs options d ++ if d = .registerFirst then followers options else []

/-- When a task that registers a project asks what. -/
structure ChainAsk (crew : Crew) (options : Options) (t : Dialogue) (op : Ask) : Prop where
  /-- It pauses only for the registration. -/
  pause : op.isPrompt = false → t = [] ∧ Executes crew .register options op
  /-- It has started some of the tasks that follow, in order. -/
  started : t.spawned.map Prod.snd <+: followers options
  /-- It starts the next of the tasks that follow, once the registration is a success. -/
  spawn : ∀ name job, op = .spawn name job →
    t.succeeded = true ∧ t.spawned.map Prod.snd ++ [job] <+: followers options

/-- The action of a task was asked for first, if its settings name a root. -/
def Asked (crew : Crew) (action : Action) (options : Options) (t : Dialogue) : Prop :=
  options.get? Setting.projectRoot.key ≠ none →
    ∃ a u, t = a :: u ∧ Executes crew action options a.op

theorem Asked.append (h : Asked crew action options t) (u : Dialogue) :
    Asked crew action options (t ++ u) := by
  intro hroot
  obtain ⟨a, v, rfl, ha⟩ := h hroot
  exact ⟨a, v ++ u, rfl, ha⟩

/-- How a task that has an action done ends. -/
def CallEnd (crew : Crew) (action : Action) (options : Options) (t : Dialogue)
    (r : Except Failure Job.Result) : Prop :=
  Asked crew action options t ∧ ∃ result, r = .ok result

/-- How a task that registers a project ends. -/
structure ChainEnd (crew : Crew) (options : Options) (t : Dialogue)
    (r : Except Failure Job.Result) : Prop where
  /-- It asked for the registration. -/
  asked : Asked crew .register options t
  /-- It has started the tasks that follow if the registration is a success, and none if not. -/
  started : t.spawned.map Prod.snd = if t.succeeded then followers options else []
  /-- It does not fail. -/
  ok : ∃ result, r = .ok result

/-- An execution whose settings name no root is refused, unless the host does it. Any other asks its
question first, then logs at most, and is a success if the answer tells of one. -/
theorem ensures_execute {Q : Dialogue → Ask → Prop} {R : Dialogue → Except Failure Value → Prop}
    (hask : ∀ op, Executes crew action options op → Q t op)
    (hlog : ∀ op reply e, Executes crew action options op → Q (t ++ [⟨op, reply⟩]) (.emit e))
    (hrefused : ∀ e, options.get? Setting.projectRoot.key = none → R t (.error e))
    (hend : ∀ a u r, Executes crew action options a.op → (∀ b ∈ u, b.spawned? = none) →
      isSuccess r = a.succeeded → R (t ++ a :: u) r) :
    (execute crew action options).Ensures Q R t := by
  rw [execute]
  split
  · next hcrew =>
    have hexec : Executes crew action options (.perform action options) :=
      Or.inr ⟨List.contains_iff_mem.1 hcrew, rfl⟩
    rw [ensures_perform]
    refine ⟨hask _ hexec, fun reply => ?_⟩
    refine hend ⟨.perform action options, reply⟩ [] reply hexec (by simp) ?_
    cases reply <;> rfl
  · next hcrew =>
    rw [ensures_bind, command]
    split
    · next hnone => exact hrefused _ hnone
    · next root hroot =>
      have hexec :
          Executes crew action options (.request action.name (action.params root options)) :=
        Or.inl ⟨fun hmem => hcrew (List.contains_iff_mem.2 hmem), root, hroot, rfl⟩
      rw [ensures_bind, ensures_request]
      refine ⟨hask _ hexec, fun reply => ?_⟩
      match reply with
      | .error e => exact hend ⟨_, .error e⟩ [] (.error e) hexec (by simp) rfl
      | .ok response =>
        -- The answer of the service is the value of the execution, be it logged or not.
        have hsuccess : isSuccess (.ok (.bool response.ok)) = Answer.succeeded
            ⟨.request action.name (action.params root options), .ok response⟩ := by
          cases hok : response.ok <;> simp [isSuccess, Value.truthy, Answer.succeeded, hok]
        rw [passing_ok]
        dsimp only
        split
        · simp only [ensures_bind, Program.log, ensures_emit, passing_ok, ensures_pure]
          refine ⟨hlog _ _ _ hexec, ?_⟩
          rw [List.append_assoc]
          exact hend _ _ _ hexec (by simp [Answer.spawned?]) hsuccess
        · simp only [ensures_pure, passing_ok]
          exact hend _ [] _ hexec (by simp) hsuccess

/-- A task that has an action done asks for it once, and does not fail. -/
theorem call_ensures (s : Setup) (action : Action) (options : Options) :
    (Job.program s (.call action options)).Ensures (CallAsk s.crew action options)
      (CallEnd s.crew action options) [] := by
  rw [Job.program, ensures_bind, callProgram, ensures_bind, ensures_attempt]
  -- However the execution ends, the task logs at most.
  refine ensures_execute (fun op hop => Or.inl ⟨rfl, hop⟩)
    (fun op reply e hop => Or.inr ⟨e, rfl⟩) (fun e hnone => ?_) fun a u r ha _ _ => ?_
  · rw [passing_ok]
    dsimp only
    rw [Program.warn, ensures_emit]
    exact ⟨Or.inr ⟨_, rfl⟩, fun hroot => absurd hnone hroot, _, rfl⟩
  · have hasked : Asked s.crew action options (a :: u) := fun _ => ⟨a, u, rfl, ha⟩
    rw [passing_ok]
    cases r with
    | ok v => exact ⟨hasked, _, rfl⟩
    | error e =>
      dsimp only
      rw [Program.warn, ensures_emit]
      exact ⟨Or.inr ⟨_, rfl⟩, hasked.append _, _, rfl⟩

/-- As long as nothing was started, a task that registers a project may log. -/
theorem ChainAsk.of_emit (ht : t.spawned = []) (e : Event) : ChainAsk crew options t (.emit e) := by
  refine ⟨fun h => ?_, ?_, fun name job h => ?_⟩
  · cases h
  · rw [ht]
    exact List.nil_prefix
  · cases h

/-- The next of the tasks that follow may be started. -/
theorem ChainAsk.of_spawn {name : String} {job : Job} (ht : t.succeeded = true)
    (h : t.spawned.map Prod.snd ++ [job] <+: followers options) :
    ChainAsk crew options t (.spawn name job) := by
  refine ⟨fun hpause => ?_, (List.prefix_append _ _).trans h, fun name' job' heq => ?_⟩
  · cases hpause
  · obtain ⟨-, rfl⟩ := Ask.spawn.inj heq
    exact ⟨ht, h⟩

/-- Without a registration, nothing is started. -/
theorem chain_skipped (hasked : Asked crew .register options t) (ht : t.spawned = [])
    (hfailed : t.succeeded = false) (text : String) :
    (do Program.log .info .dispatcher text; return false : Program Bool).Ensures
      (ChainAsk crew options)
      (Passing (ChainEnd crew options) fun b t =>
        ChainEnd crew options t (.ok (.value (.bool b)))) t := by
  simp only [ensures_bind, Program.log, ensures_emit, passing_ok, ensures_pure]
  refine ⟨.of_emit ht _, hasked.append _, ?_, _, rfl⟩
  rw [Dialogue.succeeded_snoc t rfl, hfailed, Dialogue.spawned_append, ht]
  rfl

/-- A registration that failed is logged, and nothing is started. -/
theorem chain_warned (hasked : Asked crew .register options t) (ht : t.spawned = [])
    (hfailed : t.succeeded = false) (warning : String) (e : Failure) (text : String) :
    (do Program.warn .dispatcher warning e; return false : Program Bool).Ensures
      (ChainAsk crew options)
      (Passing (ChainEnd crew options) fun b t =>
        (if b = true then (do
            let _ ← start .watch options
            let _ ← start .refresh (fullScope options)
            return true)
          else do
            Program.log .info .dispatcher text
            return false : Program Bool).Ensures (ChainAsk crew options)
          (Passing (ChainEnd crew options) fun b t =>
            ChainEnd crew options t (.ok (.value (.bool b)))) t) t := by
  rw [ensures_bind, Program.warn, ensures_emit]
  refine ⟨.of_emit ht _, ?_⟩
  rw [passing_ok, ensures_pure, passing_ok, if_neg Bool.false_ne_true]
  refine chain_skipped (hasked.append _) ?_ ?_ _
  · simp [ht, Answer.spawned?]
  · rw [Dialogue.succeeded_snoc t rfl, hfailed]

/-- A task that registers a project asks for the registration once and then starts the tasks that
follow. -/
theorem chain_ensures (s : Setup) (options : Options) :
    (Job.program s (.chain options)).Ensures (ChainAsk s.crew options)
      (ChainEnd s.crew options) [] := by
  rw [Job.program, ensures_bind, chainProgram, ensures_bind, register, ensures_bind,
    ensures_attempt]
  refine ensures_execute (fun op hop => ?_) (fun op reply e hop => .of_emit ?_ e)
    (fun e hnone => ?_) fun a u r ha hu hr => ?_
  · refine ⟨fun _ => ⟨rfl, hop⟩, List.nil_prefix, fun name job heq => ?_⟩
    have hprompt := hop.isPrompt
    rw [heq] at hprompt
    cases hprompt
  · have hnone := Answer.spawned?_of_not_isPrompt (a := ⟨op, reply⟩) hop.isPrompt
    simp [hnone]
  · exact chain_warned (fun hroot => absurd hnone hroot) rfl rfl _ _ _
  · have hspawned : Dialogue.spawned (a :: u) = [] := by
      have hnone := Answer.spawned?_of_not_isPrompt ha.isPrompt
      rw [Dialogue.spawned_cons, hnone, Dialogue.spawned, List.filterMap_eq_nil_iff.2 hu]
      rfl
    have hasked : Asked s.crew .register options (a :: u) := fun _ => ⟨a, u, rfl, ha⟩
    rw [passing_ok, List.nil_append]
    cases r with
    | error e => exact chain_warned hasked hspawned hr.symm _ _ _
    | ok v =>
      simp only [ensures_pure, passing_ok]
      split
      · next htruthy =>
        have hsuccess : a.succeeded = true := hr.symm.trans htruthy
        -- Both of the tasks that follow are started after the registration has succeeded.
        simp only [start, ensures_bind, ensures_spawn, passing_ok, ensures_pure]
        refine ⟨.of_spawn hsuccess ?_, fun watch => ⟨.of_spawn hsuccess ?_, fun refresh => ?_⟩⟩
        · rw [hspawned]
          exact ⟨_, rfl⟩
        · rw [Dialogue.spawned_append, hspawned]
          exact ⟨_, rfl⟩
        · refine ⟨fun _ => ⟨a, _, rfl, ha⟩, ?_, _, rfl⟩
          rw [List.cons_append, List.cons_append, Dialogue.succeeded_cons, hsuccess, if_pos rfl,
            ← List.cons_append, ← List.cons_append, Dialogue.spawned_append,
            Dialogue.spawned_append, hspawned]
          rfl
      · next htruthy =>
        have hfailed : a.succeeded = false := hr.symm.trans (Bool.eq_false_iff.2 htruthy)
        exact chain_skipped hasked hspawned hfailed _

end Dispatch

end IndexSync
