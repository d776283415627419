import IndexSync.Proofs.Interleaving.Dispatching
import IndexSync.Proofs.Interleaving.Staging
import IndexSync.Proofs.Interleaving.Wire

/-!
# Nothing is lost

Whoever activates and then waits for all tasks returns only when everything that the activation has
started is over. What the decision calls for has been asked for by then, and has been answered.

* `Shift.Accounted` — the scheduler has an exact account of the tasks that it has started, and who
  waits for all of them returns exactly when they are over;
* `Interleaving.Delivered` — every action that the decision of an activation calls for has been
  asked for and answered;
* `Scene.Lossless` — the same for scenes: nobody is left waiting once no turns are left and the
  tasks of the scheduler are over;
* `Shift.nothing_lost` — this holds whatever the order of turns, ends and replies, and in all
  scenes.
-/

namespace IndexSync

open Program

namespace Activation

/-- The dialogue of one who activates and waits for everything that was started, if nothing fails.
-/
def FrontEnd (t : Dialogue) (r : Except Failure Job.Result) : Prop :=
  ∀ result, r = .ok result → ∃ a, t = [⟨.startService, .ok ()⟩,
    ⟨.spawn "bootstrap" (.activation none), .ok a⟩, ⟨.join a, .ok result⟩, ⟨.drain, .ok ()⟩]

/-- Whoever activates waits for the activation first and then for everything that was started. -/
theorem front_ensures : front.Ensures (fun _ _ => True) FrontEnd [] := by
  -- Each of the three calls may fail, which ends the program without a result.
  have hfails : ∀ (t : Dialogue) (e : Failure), FrontEnd t (.error e) := by
    intro t e result hresult
    cases hresult
  unfold front activate
  apply ensures_bind.2
  apply ensures_bind.2
  refine (ensures_call_of_not_isPrompt .startService rfl).2
    ⟨trivial, fun (reply : Except Failure Unit) => ?_⟩
  cases reply with
  | error e => exact hfails _ e
  | ok _ =>
    rw [passing_ok]
    apply ensures_spawn.2
    refine ⟨trivial, fun a => ?_⟩
    rw [passing_ok]
    apply ensures_bind.2
    refine (ensures_call_of_not_isPrompt (.join a) rfl).2
      ⟨trivial, fun (reply : Except Failure Job.Result) => ?_⟩
    cases reply with
    | error e => exact hfails _ e
    | ok result =>
      rw [passing_ok]
      apply ensures_bind.2
      refine (ensures_call_of_not_isPrompt .drain rfl).2
        ⟨trivial, fun (reply : Except Failure Unit) => ?_⟩
      cases reply with
      | error e => exact hfails _ e
      | ok _ =>
        intro result' hresult
        obtain rfl := Except.ok.inj hresult
        exact ⟨a, rfl⟩

end Activation

/-- How a job ends that activates and waits. -/
def Job.FrontEnd : Job → Dialogue → Except Failure Job.Result → Prop
  | .front => Activation.FrontEnd
  | _ => fun _ _ => True

theorem Job.program_front (s : Setup) (job : Job) :
    (job.program s).Ensures (fun _ _ => True) job.FrontEnd [] := by
  cases job with
  | front => exact Activation.front_ensures
  | _ => exact (ensures_leads _ []).mono (fun _ _ _ => trivial) fun _ _ _ => trivial

namespace Interleaving

variable {s : Setup} {x : Interleaving}

/-- The tasks of an activation that ended as dispatched are appointed to its decision. -/
theorem Reachable.appointed (h : Reachable s x) {a : TaskId} {p : Party}
    (hp : x.parties[a]? = some p) {options : Option Options}
    (hjob : p.job.activation? = some options) {project : Project} {d : Decision}
    (hstate : p.state = .ended (.ok (.activation (some ⟨.dispatched, some project, some d⟩)))) :
    x.Appointed (Activation.taskOptions s project options) d (x.spawns a) := by
  obtain ⟨-, hrest⟩ := h.follows (Job.program_guarded s) a p hp
  rw [hstate, Task.State.residual, ensures_done, Job.GuardedEnd, hjob] at hrest
  obtain ⟨project', d', hclosed, hresult⟩ := Activation.GuardedEnd.closed hrest rfl
  simp only [Activation.Result.mk.injEq, Option.some.injEq, true_and] at hresult
  obtain ⟨rfl, rfl⟩ := hresult
  refine ⟨?_, h.kinship.nodup a, fun e he => h.kinship.exists_party he, ?_⟩
  · rw [← Activation.jobs_eq]
    exact hclosed.spawned
  · rw [taskOptions_root]
    exact Option.some_ne_none _

/-- A task has asked for its action, and for nothing else that made it pause; it was answered, and
has ended without a failure. -/
def Served (s : Setup) (x : Interleaving) (project : Project) (d : Decision)
    (e : TaskId × Job) : Prop :=
  ∃ action op reply rest result, e.2.action? = some action ∧
    (action ∉ s.crew ∧ op = .request action.name (Activation.wire s project d action) ∨
      action ∈ s.crew ∧ op = .perform action e.2.actionOptions) ∧
    x.asked e.1 = [op] ∧ x.dialogue e.1 = ⟨op, reply⟩ :: rest ∧
    x.state? e.1 = some (.ended (.ok result))

/-- A task of a decision that has ended was served. -/
theorem Reachable.served (h : Reachable s x) {project : Project} {options : Option Options}
    {d : Decision} {tasks : List (TaskId × Job)}
    (happointed : x.Appointed (Activation.taskOptions s project options) d tasks)
    {e : TaskId × Job} (he : e ∈ x.company tasks) {r : Except Failure Job.Result}
    (hended : x.state? e.1 = some (.ended r)) : Served s x project d e := by
  obtain ⟨p, hp, hjob⟩ := happointed.company_party h he
  obtain ⟨q, hq, hstate⟩ := state?_eq_some.1 hended
  obtain rfl := Option.some.inj (hp.symm.trans hq)
  obtain ⟨action, -, haction, hhanded⟩ := Activation.assignments_handed
    ((h.company_jobs happointed.jobs happointed.party).subset (List.mem_map_of_mem he))
  rw [← hjob] at haction hhanded
  obtain ⟨hasked, result, rfl⟩ := h.errand_ended hp haction hstate
  have hroot : p.job.actionOptions.get? Setting.projectRoot.key ≠ none := by
    rw [hhanded.root]
    exact Option.some_ne_none _
  obtain ⟨b, rest, hdialogue, hexec⟩ := hasked hroot
  -- The question that was answered first is the one that it has paused at.
  have hmem : b.op ∈ x.asked e.1 := by
    rw [h.recorded e.1, hdialogue]
    exact List.mem_append_left _ (by simp [Dialogue.pauses, hexec.isPrompt])
  obtain ⟨hone, -⟩ := h.errand_of_asked hp haction hmem
  refine ⟨action, b.op, b.reply, rest, result, hjob ▸ haction, ?_, hone, hdialogue, hended⟩
  rw [← hjob]
  exact hhanded.executes hexec

/-- Every action that the decision of an activation calls for, with regard to how the registration
ended, was asked for by a task of its own and was answered. -/
structure Delivered (s : Setup) (x : Interleaving) (a : TaskId) (project : Project)
    (d : Decision) : Prop where
  /-- There is one task for each of the actions. -/
  actions : (x.errands a).map (fun e => e.2.action?) =
    (d.prescribed (x.registered ((x.spawns a).map Prod.fst))).map some
  /-- Each of them was served. -/
  served : ∀ e ∈ x.errands a, Served s x project d e

/-- Once all tasks of an activation that ended as dispatched have ended, everything is delivered. -/
theorem Reachable.delivered (h : Reachable s x) {a : TaskId} {p : Party}
    (hp : x.parties[a]? = some p) {options : Option Options}
    (hjob : p.job.activation? = some options) {project : Project} {d : Decision}
    (hstate : p.state = .ended (.ok (.activation (some ⟨.dispatched, some project, some d⟩))))
    (hended : ∀ e ∈ x.errands a, ∃ r, x.state? e.1 = some (.ended r)) :
    Delivered s x a project d := by
  have happointed := h.appointed hp hjob hstate
  have hresting : ∀ e ∈ x.spawns a, x.Resting e.1 := by
    intro e he program hready
    obtain ⟨r, hr⟩ := hended e (List.mem_append_left _ he)
    rw [hready] at hr
    cases hr
  refine ⟨?_, fun e he => ?_⟩
  · have hactions := happointed.actions_resting h hresting
    rw [← hactions, List.map_filterMap]
    -- Every task has an action, so none is left out.
    have hall : ∀ e ∈ x.errands a, e.2.action?.map some = some e.2.action? := by
      intro e he
      obtain ⟨action, -, haction⟩ := happointed.exists_action h he
      rw [haction]
      rfl
    show _ = (x.errands a).filterMap fun e => e.2.action?.map some
    rw [List.filterMap_congr hall, List.filterMap_eq_map']
  · obtain ⟨r, hr⟩ := hended e he
    exact h.served happointed he hr

end Interleaving

namespace Shift

open Interleaving

variable {s : Setup} {y : Shift} {id : TaskId}

/-- Whoever is answered about all tasks has used a turn to look and found none. -/
theorem Change.drained {m : Move} {z : Shift} (h : Change y m z) (id : TaskId) :
    (∃ u, z.tasks.dialogue id = y.tasks.dialogue id ++ u ∧ ∀ a ∈ u, a.op ≠ .drain) ∨
      m = .look id ∧ y.roster.pending = 0 ∧
        z.tasks.dialogue id = y.tasks.dialogue id ++ [⟨.drain, .ok ()⟩] := by
  -- Any other answer is about something else.
  have hanswer : ∀ {i : TaskId} {a : Answer} (p : Program Job.Result), a.op ≠ .drain →
      ∃ u, (y.tasks.answer i a p).dialogue id = y.tasks.dialogue id ++ u ∧
        ∀ b ∈ u, b.op ≠ .drain := by
    intro i a p hop
    refine ⟨if i = id then [a] else [], dialogue_answer .., fun b hb => ?_⟩
    split at hb
    · rw [List.mem_singleton.1 hb]
      exact hop
    · cases hb
  have hsame : ∃ u, y.tasks.dialogue id = y.tasks.dialogue id ++ u ∧ ∀ a ∈ u, a.op ≠ .drain :=
    ⟨[], by simp, by simp⟩
  cases h with
  | nothing m => exact Or.inl hsame
  | start job => exact Or.inl hsame
  | spawn job => exact Or.inl hsame
  | @go i p hi =>
    refine Or.inl ?_
    rw [tasks_arrive]
    by_cases hself : i = id
    · subst hself
      obtain ⟨u, hu, hprompt⟩ := (proceed_answers i p y.tasks).1
      refine ⟨u, hu, fun a ha hop => ?_⟩
      have hop' := hprompt a ha
      rw [hop] at hop'
      cases hop'
    · refine ⟨[], ?_, by simp⟩
      rw [List.append_nil]
      exact (proceed_of_ne hself p y.tasks).1
  | @reply i op next hi hop replies =>
    refine Or.inl (hanswer _ fun heq => ?_)
    have heq : op = .drain := heq
    rw [heq] at hop
    cases hop
  | join hi hother => exact Or.inl (hanswer _ (by simp))
  | notice hi => exact Or.inl hsame
  | @drain i next hi _ hnone =>
    by_cases hself : i = id
    · subst hself
      refine Or.inr ⟨rfl, hnone, ?_⟩
      show (y.tasks.answer i _ _).dialogue i = _
      rw [dialogue_answer, if_pos rfl]
    · refine Or.inl ⟨[], ?_, by simp⟩
      show (y.tasks.answer i _ _).dialogue id = _
      rw [dialogue_answer, if_neg hself]
  | gather hi _ hsome => exact Or.inl hsame

/-- Whoever was answered about all tasks was so at a time at which none was kept track of. -/
theorem run_drained {moves : List Move} {r : Except Failure Unit}
    (h : ⟨.drain, r⟩ ∈ (run s moves).tasks.dialogue id) :
    ∃ before after, moves = before ++ .look id :: after ∧ (run s before).roster.pending = 0 ∧
      (run s before).tasks.dialogue id ++ [⟨.drain, .ok ()⟩] <+:
        (run s moves).tasks.dialogue id := by
  induction moves using List.reverseRecOn with
  | nil => cases h
  | append_singleton moves m ih =>
    by_cases hold : ⟨.drain, r⟩ ∈ (run s moves).tasks.dialogue id
    · obtain ⟨before, after, rfl, hnone, hpart⟩ := ih hold
      refine ⟨before, after ++ [m], by simp, hnone, hpart.trans ?_⟩
      rw [run_append s (before ++ .look id :: after)]
      exact steps_dialogue_initial (Shift.move_steps _ m) id
    · rw [run_append] at h ⊢
      rcases ((run s moves).move_change m).drained id with ⟨u, hu, hother⟩ | ⟨rfl, hnone, hlast⟩
      · rw [hu, List.mem_append] at h
        rcases h with h | h
        · exact absurd h hold
        · exact absurd rfl (hother _ h)
      · refine ⟨moves, [], rfl, hnone, ?_⟩
        exact hlast ▸ List.prefix_refl _

/-- The scheduler has an exact account of the tasks that it has started, and who waits for all of
them returns exactly when they are over. -/
structure Accounted (y : Shift) : Prop where
  /-- The number of tasks that are kept track of is that of the tasks that were started and whose
  end has not been noticed. -/
  pending : y.roster.pending = (y.started.filter (· ∉ y.noticed)).length
  /-- No task was started twice. -/
  nodup : y.started.Nodup
  /-- Whatever tasks have started, the scheduler has started for them. -/
  nested : ∀ b c job, (c, job) ∈ y.tasks.spawns b → c ∈ y.started
  /-- Ends that were noticed have come about. -/
  noticed : ∀ c ∈ y.noticed, ∃ r, y.tasks.state? c = some (.ended r)
  /-- Whoever waits for all tasks waits for some that were started and whose end has not been
  noticed, or it has a turn coming to look. -/
  waits : ∀ id, y.tasks.Drains id →
    (∃ group, (id, group) ∈ y.roster.gathers ∧ group ≠ [] ∧
      ∀ c ∈ group, c ∈ y.started ∧ c ∉ y.noticed) ∨ id ∈ y.due
  /-- Nobody waits in two places, and nobody has two turns coming. -/
  once : y.waiters.Nodup
  /-- Whoever waits for all tasks goes on waiting unless it has a turn and looks when every end was
  noticed; then it is answered, and not with a failure. -/
  returns : ∀ id next, y.tasks.state? id = some (.blocked .drain next) → ∀ m,
    (y.move m).tasks.state? id = some (.blocked .drain next) ∨
      m = .look id ∧ id ∈ y.due ∧ (∀ c ∈ y.started, c ∈ y.noticed) ∧
        (y.move m).tasks.state? id = some (.ready (next (.ok ())))
  /-- Whoever has a turn and looks is answered exactly if every end was noticed; else it waits for
  all those whose end was not. -/
  looks : ∀ id next, y.tasks.state? id = some (.blocked .drain next) → id ∈ y.due →
    ((y.move (.look id)).tasks.state? id = some (.ready (next (.ok ()))) ↔
        ∀ c ∈ y.started, c ∈ y.noticed) ∧
      ((∃ c ∈ y.started, c ∉ y.noticed) →
        (id, y.started.filter (· ∉ y.noticed)) ∈ (y.move (.look id)).roster.gathers)
  /-- Once all tasks that were started have ended, in whatever way, and the ends are noticed, in
  whatever order, nobody is left waiting for any of them, and whoever waits for all tasks has a turn
  and is answered when it looks. -/
  empties : (∀ c ∈ y.started, ∃ r, y.tasks.state? c = some (.ended r)) →
    ∀ ends, y.started ⊆ ends → (y.noticeAll ends).roster.pending = 0 ∧
      (y.noticeAll ends).roster.gathers = [] ∧
      ∀ id next, y.tasks.state? id = some (.blocked .drain next) → id ∈ (y.noticeAll ends).due ∧
        ((y.noticeAll ends).move (.look id)).tasks.state? id = some (.ready (next (.ok ())))

/-- Once all tasks have ended and the ends are noticed, whoever waits for all tasks is answered. -/
theorem run_empties {moves : List Move}
    (hended : ∀ c ∈ (run s moves).started, ∃ r, (run s moves).tasks.state? c = some (.ended r))
    {ends : List TaskId} (hends : (run s moves).started ⊆ ends) :
    ((run s moves).noticeAll ends).roster.pending = 0 ∧
      ((run s moves).noticeAll ends).roster.gathers = [] ∧
      ∀ id next, (run s moves).tasks.state? id = some (.blocked .drain next) →
        id ∈ ((run s moves).noticeAll ends).due ∧
        (((run s moves).noticeAll ends).move (.look id)).tasks.state? id =
          some (.ready (next (.ok ()))) := by
  obtain ⟨htasks, hstarted, hnoticed⟩ := noticeAll_facts (run s moves) ends
  -- The shift after the notices is one of a run as well: what holds of runs holds of it.
  have hrun : (run s moves).noticeAll ends = run s (moves ++ ends.map Move.notice) := by
    rw [run, run, List.foldl_append]
    rfl
  have hkept : ((run s moves).noticeAll ends).Kept := hrun ▸ run_kept s _
  have hattended : ((run s moves).noticeAll ends).Attended := hrun ▸ run_attended s _
  have hall : ∀ c ∈ ((run s moves).noticeAll ends).started,
      c ∈ ((run s moves).noticeAll ends).noticed := by
    intro c hc
    rw [hstarted] at hc
    exact hnoticed c (Or.inr ⟨hends hc, hended c hc⟩)
  have hnone := hkept.pending_eq_zero.2 hall
  have hempty := hkept.gathers_eq_nil hnone
  refine ⟨hnone, hempty, fun id next hid => ?_⟩
  rw [← htasks] at hid
  rcases hattended.waits hkept ⟨next, hid⟩ with ⟨group, hgroup, -⟩ | hdue
  · rw [hempty] at hgroup
    cases hgroup
  · exact ⟨hdue, (hkept.look_iff hid hdue).2 hall⟩

/-- The account of the scheduler is exact, whatever happens. -/
theorem run_accounted (s : Setup) (moves : List Move) : (run s moves).Accounted := by
  have hkept := run_kept s moves
  have hattended := run_attended s moves
  refine ⟨?_, hkept.nodup, hkept.spawned, hkept.noticed, fun id hid => ?_, hattended.nodup,
    fun id next hid m => ?_, fun id next hid hdue => ⟨hkept.look_iff hid hdue, ?_⟩,
    fun hended _ hends => run_empties hended hends⟩
  · rw [Roster.pending, hkept.tracked]
  · rcases hattended.waits hkept hid with ⟨group, hgroup, hne, hsub⟩ | hdue
    · refine Or.inl ⟨group, hgroup, hne, fun c hc => ?_⟩
      have hmem := hsub hc
      rw [hkept.tracked, List.mem_filter] at hmem
      exact ⟨hmem.1, of_decide_eq_true hmem.2⟩
    · exact Or.inr hdue
  · rcases ((run s moves).move_change m).waiting hid with hwaits | ⟨hlook, hdue, hnone, hready⟩
    · exact Or.inl hwaits
    · exact Or.inr ⟨hlook, hdue, hkept.pending_eq_zero.1 hnone, hready⟩
  · rintro ⟨c, hc, hnot⟩
    have hsome : (run s moves).roster.pending ≠ 0 :=
      fun hnone => hnot (hkept.pending_eq_zero.1 hnone c hc)
    rw [move_look_of_pending hid hdue hsome, ← hkept.tracked]
    exact List.mem_append_right _ List.mem_cons_self

/-- Whoever activates, waits and returns has had an activation, the result of which it returns, and
all tasks of that activation have ended. -/
theorem run_returned {moves : List Move} {p : Party}
    (hp : (run s moves).tasks.parties[id]? = some p) (hjob : p.job = .front)
    {result : Job.Result} (hstate : p.state = .ended (.ok result)) :
    ∃ a, (a, .activation none) ∈ (run s moves).tasks.spawns id ∧
      (run s moves).tasks.state? a = some (.ended (.ok result)) ∧
      ∀ e ∈ (run s moves).tasks.errands a,
        ∃ r, (run s moves).tasks.state? e.1 = some (.ended r) := by
  have hx := run_reachable s moves
  obtain ⟨-, hrest⟩ := hx.follows (Job.program_front s) id p hp
  rw [hstate, Task.State.residual, ensures_done, hjob] at hrest
  obtain ⟨a, hdialogue⟩ := hrest result rfl
  have hdrain : ⟨.drain, .ok ()⟩ ∈ (run s moves).tasks.dialogue id := by
    rw [hdialogue]
    simp
  -- It was answered about all tasks at a time at which it knew the result.
  obtain ⟨before, after, rfl, hnone, hpart⟩ := run_drained hdrain
  have hthen : (run s before).tasks.dialogue id = [⟨.startService, .ok ()⟩,
      ⟨.spawn "bootstrap" (.activation none), .ok a⟩, ⟨.join a, .ok result⟩] := by
    have hlast : (run s (before ++ .look id :: after)).tasks.dialogue id = [⟨.startService, .ok ()⟩,
        ⟨.spawn "bootstrap" (.activation none), .ok a⟩, ⟨.join a, .ok result⟩] ++
          [⟨.drain, .ok ()⟩] := hdialogue
    rw [hlast] at hpart
    -- It asked about all tasks only once.
    rcases List.prefix_concat_iff.1 hpart with hall | hless
    · exact List.append_cancel_right hall
    · have hmem := hless.subset (List.mem_append_right _ (List.mem_singleton.2 rfl))
      simp at hmem
  have hkept := run_kept s before
  have hover : ∀ c ∈ (run s before).started, ∃ r, (run s before).tasks.state? c = some (.ended r) :=
    fun c hc => hkept.noticed c (hkept.pending_eq_zero.1 hnone c hc)
  have hsteps : Relation.ReflTransGen Step (run s before).tasks
      (run s (before ++ .look id :: after)).tasks := by
    rw [run, run, List.foldl_append]
    exact foldl_move_steps _ _
  have hresult : (run s before).tasks.state? a = some (.ended (.ok result)) :=
    hkept.sound id ⟨.join a, .ok result⟩ (by rw [hthen]; simp)
  -- What had ended then is as it was then.
  have hsame : ∀ c r, (run s before).tasks.state? c = some (.ended r) →
      (run s (before ++ .look id :: after)).tasks.spawns c = (run s before).tasks.spawns c := by
    intro c r hc
    rw [spawns, spawns, (steps_ended hsteps hc).2]
  have hended : ∀ b e, e ∈ (run s before).tasks.spawns b →
      ∃ r, (run s before).tasks.state? e.1 = some (.ended r) :=
    fun b e he => hover e.1 (hkept.spawned b e.1 e.2 he)
  refine ⟨a, ?_, (steps_ended hsteps hresult).1, fun e he => ?_⟩
  · rw [spawns, hdialogue]
    simp [Answer.spawned?]
  · rcases List.mem_append.1 he with he | he
    · rw [hsame a _ hresult] at he
      obtain ⟨r, hr⟩ := hended a e he
      exact ⟨r, (steps_ended hsteps hr).1⟩
    · obtain ⟨b, hb, he⟩ := List.mem_flatMap.1 he
      rw [hsame a _ hresult] at hb
      obtain ⟨rb, hrb⟩ := hended a b hb
      rw [hsame b.1 _ hrb] at he
      obtain ⟨r, hr⟩ := hended b.1 e he
      exact ⟨r, (steps_ended hsteps hr).1⟩

/-- Whoever activates, waits and returns that a decision was dispatched has had an activation that
dispatched it, and everything that the decision calls for was asked for and answered. -/
theorem run_delivered {moves : List Move} {p : Party}
    (hp : (run s moves).tasks.parties[id]? = some p) (hjob : p.job = .front) {project : Project}
    {d : Decision}
    (hstate : p.state = .ended (.ok (.activation (some ⟨.dispatched, some project, some d⟩)))) :
    ∃ a, (a, .activation none) ∈ (run s moves).tasks.spawns id ∧
      (run s moves).tasks.state? a =
        some (.ended (.ok (.activation (some ⟨.dispatched, some project, some d⟩)))) ∧
      Delivered s (run s moves).tasks a project d := by
  obtain ⟨a, hspawned, hresult, hended⟩ := run_returned hp hjob hstate
  refine ⟨a, hspawned, hresult, ?_⟩
  have hx := run_reachable s moves
  obtain ⟨q, hq, hqjob⟩ := hx.kinship.exists_party hspawned
  obtain ⟨q', hq', hqstate⟩ := state?_eq_some.1 hresult
  obtain rfl := Option.some.inj (hq.symm.trans hq')
  exact hx.delivered hq (by rw [hqjob]; rfl) hqstate hended

/-- What is lost when whoever activates and waits returns: nothing. -/
structure Lossless (s : Setup) (y : Shift) : Prop where
  /-- The account of the scheduler is exact. -/
  accounted : y.Accounted
  /-- Whoever returns that a decision was dispatched has had an activation that dispatched it, and
  everything that the decision calls for was asked for and answered. -/
  delivered : ∀ id p project d, y.tasks.parties[id]? = some p → p.job = .front →
    p.state = .ended (.ok (.activation (some ⟨.dispatched, some project, some d⟩))) →
    ∃ a, (a, .activation none) ∈ y.tasks.spawns id ∧
      y.tasks.state? a =
        some (.ended (.ok (.activation (some ⟨.dispatched, some project, some d⟩)))) ∧
      Delivered s y.tasks a project d

/-- Nothing is lost in any shift. -/
theorem run_lossless (s : Setup) (moves : List Move) : Lossless s (run s moves) :=
  ⟨run_accounted s moves, fun _ _ _ _ hp hjob hstate => run_delivered hp hjob hstate⟩

end Shift

namespace Scene

open Interleaving

/-- In a scene, whoever activates, waits and returns that a decision was dispatched has had
everything asked for and answered that the decision calls for. -/
theorem Staged.delivered {s : Scene} (h : Staged s) {id : TaskId} {t : Task}
    (ht : s.pool.tasks[id]? = some t) (hjob : t.job = .front) {project : Project} {d : Decision}
    (hstate : t.state = .ended (.ok (.activation (some ⟨.dispatched, some project, some d⟩)))) :
    ∃ x a, x.Plays s ∧ (a, .activation none) ∈ x.spawns id ∧ Delivered s.setup x a project d := by
  obtain ⟨moves, hplays⟩ := h.shifts
  have hlook := hplays.tasks.look id
  rw [Pool.look, ht, Option.map_some, Interleaving.look, Option.map_eq_some_iff] at hlook
  obtain ⟨p, hp, hsame⟩ := hlook
  obtain ⟨hpjob, hpstate⟩ := Prod.mk.inj hsame
  obtain ⟨a, hspawned, -, hall⟩ :=
    Shift.run_delivered hp (hpjob.trans hjob) (hpstate.trans hstate)
  exact ⟨_, a, hplays.tasks, hspawned, hall⟩

/-- What is lost in a scene: nothing. -/
structure Lossless (s : Scene) : Prop where
  /-- Whoever waits for all tasks waits for some that the scheduler keeps track of, or it has a turn
  coming. -/
  waits : ∀ (id : TaskId) next, s.pool.tasks[id]?.map Task.state = some (.blocked .drain next) →
    (∃ group, (id, group) ∈ s.pool.roster.gathers ∧ group ≠ [] ∧ group ⊆ s.pool.roster.tracked) ∨
      .go id ∈ s.pool.queue
  /-- Once no turns are left, every task that the scheduler keeps track of waits for something. -/
  settled : s.pool.queue = [] → ∀ c ∈ s.pool.roster.tracked,
    ∃ op next, s.pool.tasks[c]?.map Task.state = some (.blocked op next)
  /-- If the tasks that the scheduler keeps track of are over as well, there are none, and nobody is
  left waiting for them. -/
  returned : s.pool.queue = [] →
    (∀ c ∈ s.pool.roster.tracked, ∃ r, s.pool.tasks[c]?.map Task.state = some (.ended r)) →
    s.pool.pending = 0 ∧
      ∀ (id : TaskId) next, s.pool.tasks[id]?.map Task.state ≠ some (.blocked .drain next)
  /-- Whoever returns that a decision was dispatched has had everything asked for and answered that
  the decision calls for. -/
  delivered : ∀ (id : TaskId) t project d, s.pool.tasks[id]? = some t → t.job = .front →
    t.state = .ended (.ok (.activation (some ⟨.dispatched, some project, some d⟩))) →
    ∃ x a, x.Plays s ∧ (a, .activation none) ∈ x.spawns id ∧ Delivered s.setup x a project d

/-- Nothing is lost in any scene. -/
theorem Staged.lossless {s : Scene} (h : Staged s) : s.Lossless := by
  have hblocked := fun hsettled c hc => h.blocked_of_tracked (c := c) hsettled hc
  refine ⟨fun id next hid => h.waits hid, hblocked, fun hsettled hended => ?_,
    fun _ _ _ _ ht hjob hstate => h.delivered ht hjob hstate⟩
  -- What is over does not wait, so nothing is kept track of.
  have hnone : s.pool.roster.tracked = [] := by
    refine List.eq_nil_iff_forall_not_mem.2 fun c hc => ?_
    obtain ⟨r, hr⟩ := hended c hc
    obtain ⟨op, next, hop⟩ := hblocked hsettled c hc
    rw [hr] at hop
    cases hop
  refine ⟨List.length_eq_zero_iff.2 hnone, fun id next hid => ?_⟩
  rcases h.waits hid with ⟨group, -, hne, hsub⟩ | hturn
  · rw [hnone] at hsub
    exact hne (List.subset_nil.1 hsub)
  · rw [hsettled] at hturn
    cases hturn

end Scene

namespace Shift

open Interleaving

/-- Nothing is lost, whatever the order of turns, ends and replies, and in no scene either. -/
theorem nothing_lost : (∀ (s : Setup) (moves : List Move), Lossless s (run s moves)) ∧
    ∀ s : Scene, s.Staged → s.Lossless :=
  ⟨run_lossless, fun _ h => h.lossless⟩

section Errand

/-- The service can be had, and it grants everything that is asked of it. -/
def granting : (op : Ask) → Except Failure op.Reply
  | .startService => .ok ()
  | op => obliging op

/-- An activation goes through, and whoever waits for everything looks three times: when the project
is to be registered, when it is to be watched and refreshed, and when all that is done. -/
def errand : List Move :=
  let turn (c : TaskId) : List Move := [.go c, .reply c granting]
  [Move.start .front false] ++ turn 0 ++ [Move.go 0] ++ turn 1 ++ turn 1 ++ turn 1 ++ turn 1 ++
    [Move.go 1, .notice 1, .join 0, .go 0, .look 0] ++ turn 2 ++ [Move.go 2, .notice 2, .look 0] ++
    turn 4 ++ [Move.go 4] ++ turn 3 ++ [Move.go 3, .notice 3, .notice 4, .look 0, .go 0]

set_option maxRecDepth 2000 in
/-- The project was registered, watched and refreshed before this was over. -/
theorem errand_delivered : ∃ p project d,
    (run .standard errand).tasks.parties[0]? = some p ∧ p.job = .front ∧
    p.state = .ended (.ok (.activation (some ⟨.dispatched, some project, some d⟩))) ∧
    d = .registerFirst ∧ Delivered .standard (run .standard errand).tasks 1 project d ∧
    (run .standard errand).tasks.registered [2] = true := by
  obtain ⟨-, hdelivered⟩ := nothing_lost.1 .standard errand
  obtain ⟨a, hspawned, -, hall⟩ := hdelivered 0 _ _ _ rfl rfl rfl
  have hone : (run .standard errand).tasks.spawns 0 = [(1, .activation none)] := rfl
  rw [hone, List.mem_singleton, Prod.mk.injEq] at hspawned
  obtain ⟨rfl, -⟩ := hspawned
  exact ⟨_, _, _, rfl, rfl, rfl, rfl, hall, rfl⟩

end Errand

end Shift

end IndexSync
