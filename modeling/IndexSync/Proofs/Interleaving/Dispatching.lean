import IndexSync.Proofs.Interleaving.Errands
import Mathlib.Data.List.Flatten
import Mathlib.Data.List.Perm.Basic
import Mathlib.Data.List.Nodup

/-!
# Dispatches

A dispatch starts tasks and returns. The tasks have the actions of the decision done, whatever the
order in which they take turns and however the actions end.

* `Interleaving.conduct` — a program that the host carries out itself, outside of any task;
* `Interleaving.executed x ids` — the actions that tasks have had done, in order;
* `Interleaving.Contained` — what holds of the tasks of a decision at any time: no action is done
  twice, those of the decision are done and no others, what follows a registration is done after it
  succeeded, and no task fails;
* `Interleaving.Reachable.contained` — the tasks of every decision are contained.
-/

namespace IndexSync

open Program

/-- The action that a question has done. -/
def Ask.action? : Ask → Option Action
  | .perform action _ => some action
  | .request name _ => [Action.register, .refresh, .watch].find? fun action => action.name == name
  | _ => none

/-- The question that has an action done has that action done. -/
theorem Dispatch.Executes.action? {crew : Crew} {action : Action} {options : Options} {op : Ask}
    (h : Dispatch.Executes crew action options op) : op.action? = some action := by
  rcases h with ⟨-, root, -, rfl⟩ | ⟨-, rfl⟩
  · cases action <;> rfl
  · rfl

/-- The action that one of some tasks has had done at a moment. -/
def Moment.executed? (ids : List TaskId) : Moment → Option Action
  | .asked task op => if task ∈ ids then op.action? else none
  | .answered _ _ => none

/-- The actions that a decision calls for, depending on whether the registration is a success. -/
def Decision.prescribed (d : Decision) (registered : Bool) : List Action :=
  if d = .registerFirst ∧ registered = false then [.register] else d.actions

/-- What a decision calls for is the beginning of its actions. -/
theorem Decision.prescribed_initial (d : Decision) (registered : Bool) :
    d.prescribed registered <+: d.actions := by
  cases d <;> cases registered <;> decide

namespace Interleaving

variable {s : Setup} {x : Interleaving}

/-- Carry out a program outside of any task, as long as its questions are answered on the spot. -/
def conduct {α : Type} : Program α → Interleaving → Option (Except Failure α) × Interleaving
  | .done r, x => (some r, x)
  | .ask op next, x =>
    match x.promptly x.parties.length op with
    | some (reply, y) => conduct (next reply) y
    | none => (none, x)

/-- The host starts tasks, one after the other. -/
def startAll (x : Interleaving) (jobs : List Job) : Interleaving :=
  (jobs.map Move.start).foldl move x

/-- The actions that tasks have had done, in order. -/
def executed (x : Interleaving) (ids : List TaskId) : List Action :=
  x.moments.filterMap (Moment.executed? ids)

/-- A task that is not ready has come as far as it can without a reply. -/
def Resting (x : Interleaving) (id : TaskId) : Prop :=
  ∀ program, x.state? id ≠ some (.ready program)

section Executed

/-- What one more task has had done comes in between. -/
theorem filterMap_executed?_cons (moments : List Moment) {c : TaskId} {ids : List TaskId}
    (hc : c ∉ ids) :
    (moments.filterMap (Moment.executed? (c :: ids))).Perm
      ((moments.filterMap (·.askedBy? c)).filterMap Ask.action? ++
        moments.filterMap (Moment.executed? ids)) := by
  induction moments with
  | nil => exact .refl _
  | cons m moments ih =>
    cases m with
    | answered task answer => exact ih
    | asked task op =>
      cases hop : op.action? with
      | none =>
        by_cases htask : task = c
        · subst htask
          simpa [Moment.executed?, Moment.askedBy?, hop] using ih
        · simpa [Moment.executed?, Moment.askedBy?, hop, htask] using ih
      | some action =>
        by_cases htask : task = c
        · subst htask
          simpa [Moment.executed?, Moment.askedBy?, hop, hc] using ih
        · by_cases hmem : task ∈ ids
          · have hcons := (ih.cons action).trans List.perm_middle.symm
            simpa [Moment.executed?, Moment.askedBy?, hop, htask, hmem] using hcons
          · simpa [Moment.executed?, Moment.askedBy?, hop, htask, hmem] using ih

/-- What tasks have had done is what each of them has had done, in some order. -/
theorem executed_perm (x : Interleaving) {ids : List TaskId} (hnodup : ids.Nodup) :
    (x.executed ids).Perm (ids.flatMap fun c => (x.asked c).filterMap Ask.action?) := by
  induction ids with
  | nil =>
    have hnone : x.executed [] = [] := by
      rw [executed, List.filterMap_eq_nil_iff]
      intro m _
      cases m <;> simp [Moment.executed?]
    rw [hnone]
    exact .refl _
  | cons c ids ih =>
    obtain ⟨hc, hids⟩ := List.nodup_cons.1 hnodup
    exact (filterMap_executed?_cons x.moments hc).trans ((ih hids).append_left _)

end Executed

section Errand

variable {c : TaskId} {p : Party} {action : Action}

/-- A task that has an action done has had that action done, or none. -/
theorem Reachable.asked_actions (h : Reachable s x) (hp : x.parties[c]? = some p)
    (haction : p.job.action? = some action) :
    (x.asked c).filterMap Ask.action? = [] ∨ (x.asked c).filterMap Ask.action? = [action] := by
  rcases h.asked_errand hp haction with hnone | ⟨op, hone, hexec⟩
  · rw [hnone]
    exact Or.inl rfl
  · rw [hone]
    exact Or.inr (by simp [hexec.action?])

/-- A task that has an action done, and that has ended, asked for it first and did not fail. -/
theorem Reachable.errand_ended (h : Reachable s x) (hp : x.parties[c]? = some p)
    (haction : p.job.action? = some action) {r : Except Failure Job.Result}
    (hr : p.state = .ended r) :
    Dispatch.Asked s.crew action p.job.actionOptions (x.dialogue c) ∧ ∃ result, r = .ok result := by
  obtain ⟨-, hrest⟩ := h.follows (Job.program_errand s) c p hp
  rw [hr, Task.State.residual, ensures_done] at hrest
  cases hjob : p.job with
  | call action' options =>
    rw [hjob] at hrest haction
    obtain rfl := Option.some.inj haction
    exact hrest
  | chain options =>
    rw [hjob] at hrest haction
    obtain rfl := Option.some.inj haction
    exact ⟨hrest.asked, hrest.ok⟩
  | _ =>
    rw [hjob] at haction
    cases haction

/-- A task that has an action done for a root, and that is at rest, has asked for it. -/
theorem Reachable.asked_resting (h : Reachable s x) (hp : x.parties[c]? = some p)
    (haction : p.job.action? = some action)
    (hroot : p.job.actionOptions.get? Setting.projectRoot.key ≠ none) (hrest : x.Resting c) :
    (x.asked c).filterMap Ask.action? = [action] := by
  refine (h.asked_actions hp haction).resolve_left fun hnone => ?_
  rcases h.asked_errand hp haction with hnil | ⟨op, hone, hexec⟩
  · -- It neither awaits the answer nor has been given it, so it is ready.
    rw [h.recorded c] at hnil
    obtain ⟨hpauses, hawaiting⟩ := List.append_eq_nil_iff.1 hnil
    rw [awaiting_of_state? (state?_eq_some.2 ⟨p, hp, rfl⟩)] at hawaiting
    cases hstate : p.state with
    | ready program => exact hrest program (state?_eq_some.2 ⟨p, hp, hstate⟩)
    | blocked op next =>
      rw [hstate] at hawaiting
      cases hawaiting
    | ended r =>
      obtain ⟨a, u, hdialogue, hexec⟩ := (h.errand_ended hp haction hstate).1 hroot
      rw [hdialogue] at hpauses
      simp [Dialogue.pauses, hexec.isPrompt] at hpauses
  · rw [hone] at hnone
    simp [hexec.action?] at hnone

/-- A registration that is at rest has started the tasks that follow if it is a success, and none if
not. -/
theorem Reachable.spawns_chain_resting (h : Reachable s x) (hp : x.parties[c]? = some p)
    {options : Options} (hjob : p.job = .chain options) (hrest : x.Resting c) :
    (x.spawns c).map Prod.snd =
      if (x.dialogue c).succeeded then Dispatch.followers options else [] := by
  obtain ⟨-, hresidual⟩ := h.follows (Job.program_errand s) c p hp
  rw [hjob] at hresidual
  cases hstate : p.state with
  | ready program => exact absurd (state?_eq_some.2 ⟨p, hp, hstate⟩) (hrest program)
  | blocked op next =>
    -- It pauses at its first question only.
    rw [hstate] at hresidual
    have hop := h.orderly.pauses c op next (state?_eq_some.2 ⟨p, hp, hstate⟩)
    obtain ⟨hnil, -⟩ := hresidual.1.pause hop
    rw [spawns, hnil]
    rfl
  | ended r =>
    rw [hstate] at hresidual
    exact hresidual.started

end Errand

/-- The tasks that were started for a decision, with settings that name a root. -/
structure Appointed (x : Interleaving) (o : Options) (d : Decision)
    (tasks : List (TaskId × Job)) : Prop where
  /-- They are those that the decision calls for. -/
  jobs : tasks.map Prod.snd = Dispatch.jobs o d
  /-- They are different tasks. -/
  nodup : (tasks.map Prod.fst).Nodup
  /-- They take part. -/
  party : ∀ e ∈ tasks, ∃ p, x.parties[e.1]? = some p ∧ p.job = e.2
  /-- The settings name a root. -/
  root : o.get? Setting.projectRoot.key ≠ none

/-- The numbers of tasks and of those that they have started. -/
def retinue (x : Interleaving) (ids : List TaskId) : List TaskId :=
  ids ++ ids.flatMap fun b => (x.spawns b).map Prod.fst

/-- One of some tasks has asked for an action, first of all, that is a success. -/
def registered (x : Interleaving) (ids : List TaskId) : Bool :=
  ids.any fun b => (x.dialogue b).succeeded

theorem retinue_eq (x : Interleaving) (tasks : List (TaskId × Job)) :
    x.retinue (tasks.map Prod.fst) = (x.company tasks).map Prod.fst := by
  rw [retinue, company, List.map_append, List.flatMap_map, List.map_flatMap]

section Appointed

variable {o : Options} {d : Decision} {tasks : List (TaskId × Job)}

/-- The tasks of a decision and those that they have started take part. -/
theorem Appointed.company_party (h : x.Appointed o d tasks) (hx : Reachable s x)
    {e : TaskId × Job} (he : e ∈ x.company tasks) :
    ∃ p, x.parties[e.1]? = some p ∧ p.job = e.2 := by
  rcases List.mem_append.1 he with he | he
  · exact h.party e he
  · obtain ⟨b, -, hb⟩ := List.mem_flatMap.1 he
    exact hx.kinship.exists_party hb

/-- The settings of all tasks of a decision name a root. -/
theorem assignments_root (hroot : o.get? Setting.projectRoot.key ≠ none) {job : Job}
    (hjob : job ∈ Dispatch.assignments o d) :
    job.actionOptions.get? Setting.projectRoot.key ≠ none := by
  have hne : Setting.projectRoot.key ≠ Setting.scope.key := by decide
  have hfull : (Dispatch.fullScope o).get? Setting.projectRoot.key ≠ none := by
    rw [Dispatch.fullScope, Options.get?_put, if_neg hne]
    exact hroot
  have herase : (o.erase Setting.scope.key).get? Setting.projectRoot.key ≠ none := by
    rw [Options.get?_erase, if_neg hne]
    exact hroot
  cases d with
  | synced => cases hjob
  | refreshOnly =>
    obtain rfl := List.mem_singleton.1 hjob
    exact herase
  | fullRefreshAndWatch =>
    simp only [Dispatch.assignments, Dispatch.jobs, reduceCtorEq, if_false, List.append_nil,
      List.mem_cons, List.not_mem_nil, or_false] at hjob
    rcases hjob with rfl | rfl
    · exact hfull
    · exact hroot
  | registerFirst =>
    simp only [Dispatch.assignments, Dispatch.jobs, Dispatch.followers, if_true, List.cons_append,
      List.nil_append, List.mem_cons, List.not_mem_nil, or_false] at hjob
    rcases hjob with rfl | rfl | rfl
    · exact hroot
    · exact hroot
    · exact hfull

/-- Only a registration starts further tasks. -/
theorem Appointed.company_eq (h : x.Appointed o d tasks) (hx : Reachable s x)
    (hd : d ≠ .registerFirst) : x.company tasks = tasks := by
  have hcall : ∀ c action o, (c, .call action o) ∈ tasks → x.spawns c = [] := by
    intro c action o hc
    obtain ⟨q, hq, hqjob⟩ := h.party _ hc
    exact hx.spawns_call hq hqjob
  have hnone : tasks.flatMap (fun b => x.spawns b.1) = [] := by
    refine List.flatMap_eq_nil_iff.2 fun e he => ?_
    obtain ⟨c, job⟩ := e
    have hin : job ∈ Dispatch.jobs o d := h.jobs ▸ List.mem_map_of_mem he
    cases d with
    | registerFirst => exact absurd rfl hd
    | synced => cases hin
    | refreshOnly =>
      obtain rfl := List.mem_singleton.1 hin
      exact hcall c _ _ he
    | fullRefreshAndWatch =>
      simp only [Dispatch.jobs, List.mem_cons, List.not_mem_nil, or_false] at hin
      rcases hin with rfl | rfl
      · exact hcall c _ _ he
      · exact hcall c _ _ he
  rw [company, hnone, List.append_nil]

/-- The tasks of a decision to register a project are the registration and those that it has
started. -/
theorem Appointed.exists_chain (h : x.Appointed o .registerFirst tasks) :
    ∃ c p, tasks = [(c, .chain o)] ∧ x.company tasks = (c, .chain o) :: x.spawns c ∧
      x.parties[c]? = some p ∧ p.job = .chain o := by
  have hjobs := h.jobs
  simp only [Dispatch.jobs, List.map_eq_cons_iff, List.map_eq_nil_iff] at hjobs
  obtain ⟨⟨c, job⟩, _, rfl, rfl, rfl⟩ := hjobs
  obtain ⟨p, hp, hjob⟩ := h.party _ List.mem_cons_self
  refine ⟨c, p, rfl, ?_, hp, hjob⟩
  simp [company]

/-- The tasks of a decision and those that they have started are different tasks. -/
theorem Appointed.company_nodup (h : x.Appointed o d tasks) (hx : Reachable s x) :
    ((x.company tasks).map Prod.fst).Nodup := by
  by_cases hd : d = .registerFirst
  · subst hd
    obtain ⟨c, p, rfl, hcompany, -, -⟩ := h.exists_chain
    rw [hcompany, List.map_cons, List.nodup_cons]
    refine ⟨fun hmem => ?_, hx.kinship.nodup c⟩
    -- The tasks that a registration starts come after it.
    obtain ⟨⟨c', job⟩, hc, rfl⟩ := List.mem_map.1 hmem
    exact Nat.lt_irrefl _ (hx.kinship.started c' c' job hc).1
  · rw [h.company_eq hx hd]
    exact h.nodup

/-- The actions of the tasks of a decision are the first ones that the decision calls for. -/
theorem Appointed.actions_initial (h : x.Appointed o d tasks) (hx : Reachable s x) :
    (x.company tasks).filterMap (fun e => e.2.action?) <+: d.actions := by
  have hjobs := (hx.company_jobs h.jobs h.party).filterMap Job.action?
  have hactions : (Dispatch.assignments o d).filterMap Job.action? = d.actions := by
    cases d <;> rfl
  rwa [hactions, List.filterMap_map] at hjobs

/-- Every task of a decision has one of its actions done. -/
theorem Appointed.exists_action (h : x.Appointed o d tasks) (hx : Reachable s x)
    {e : TaskId × Job} (he : e ∈ x.company tasks) :
    ∃ action ∈ d.actions, e.2.action? = some action := by
  have hjobs := (hx.company_jobs h.jobs h.party).map Job.action?
  rw [Dispatch.assignments_actions, List.map_map] at hjobs
  obtain ⟨action, hin, haction⟩ := List.mem_map.1 (hjobs.subset (List.mem_map.2 ⟨e, he, rfl⟩))
  exact ⟨action, hin, haction.symm⟩

/-- Every task of a decision takes part and has an action done. -/
theorem Appointed.exists_errand (h : x.Appointed o d tasks) (hx : Reachable s x) {c : TaskId}
    (hc : c ∈ x.retinue (tasks.map Prod.fst)) :
    ∃ p action, x.parties[c]? = some p ∧ p.job.action? = some action := by
  rw [retinue_eq] at hc
  obtain ⟨e, he, rfl⟩ := List.mem_map.1 hc
  obtain ⟨p, hp, hjob⟩ := h.company_party hx he
  obtain ⟨action, -, haction⟩ := h.exists_action hx he
  exact ⟨p, action, hp, hjob ▸ haction⟩

/-- Once the tasks of a decision are at rest, their actions are those that the decision calls for.
-/
theorem Appointed.actions_resting (h : x.Appointed o d tasks) (hx : Reachable s x)
    (hrest : ∀ e ∈ tasks, x.Resting e.1) :
    (x.company tasks).filterMap (fun e => e.2.action?) =
      d.prescribed (x.registered (tasks.map Prod.fst)) := by
  by_cases hd : d = .registerFirst
  · subst hd
    obtain ⟨c, p, rfl, hcompany, hp, hjob⟩ := h.exists_chain
    have hspawns := hx.spawns_chain_resting hp hjob (hrest _ List.mem_cons_self)
    have hactions : (x.spawns c).filterMap (fun e => e.2.action?) =
        ((x.spawns c).map Prod.snd).filterMap Job.action? := by
      rw [List.filterMap_map]
      rfl
    rw [hcompany, List.filterMap_cons, hactions, hspawns]
    cases hsuccess : (x.dialogue c).succeeded with
    | true => simp [Decision.prescribed, registered, hsuccess, Dispatch.followers, Job.action?,
        Decision.actions]
    | false => simp [Decision.prescribed, registered, hsuccess, Job.action?]
  · have hjobs := congrArg (List.filterMap Job.action?) h.jobs
    rw [List.filterMap_map] at hjobs
    rw [h.company_eq hx hd, Decision.prescribed, if_neg fun hboth => hd hboth.1]
    refine hjobs.trans ?_
    cases d with
    | registerFirst => exact absurd rfl hd
    | _ => rfl

/-- What the tasks of a decision have had done is, in some order, what each of them has. -/
theorem Appointed.executed_perm (h : x.Appointed o d tasks) (hx : Reachable s x) :
    (x.executed (x.retinue (tasks.map Prod.fst))).Perm
      ((x.company tasks).flatMap fun e => (x.asked e.1).filterMap Ask.action?) := by
  rw [retinue_eq]
  have hperm := Interleaving.executed_perm x (h.company_nodup hx)
  rwa [List.flatMap_map] at hperm

/-- What the tasks of a decision have had done are, in some order, some of its actions. -/
theorem Appointed.executed_sublist (h : x.Appointed o d tasks) (hx : Reachable s x) :
    ∃ l, (x.executed (x.retinue (tasks.map Prod.fst))).Perm l ∧ l.Sublist d.actions := by
  have hpart : ((x.company tasks).flatMap fun e => (x.asked e.1).filterMap Ask.action?).Sublist
      ((x.company tasks).filterMap fun e => e.2.action?) := by
    rw [List.filterMap_eq_flatMap_toList]
    refine List.Sublist.flatMap_right _ fun e he => ?_
    obtain ⟨p, hp, hjob⟩ := h.company_party hx he
    obtain ⟨action, -, haction⟩ := h.exists_action hx he
    rw [haction, Option.toList_some]
    rcases hx.asked_actions hp (hjob ▸ haction) with hnone | hone
    · rw [hnone]
      exact List.nil_sublist _
    · rw [hone]
  exact ⟨_, h.executed_perm hx, hpart.trans (h.actions_initial hx).sublist⟩

/-- Once all tasks of a decision are at rest, they have had done what the decision calls for. -/
theorem Appointed.executed_resting (h : x.Appointed o d tasks) (hx : Reachable s x)
    (hrest : ∀ c ∈ x.retinue (tasks.map Prod.fst), x.Resting c) :
    (x.executed (x.retinue (tasks.map Prod.fst))).Perm
      (d.prescribed (x.registered (tasks.map Prod.fst))) := by
  have hcompany : ∀ e ∈ x.company tasks, x.Resting e.1 := by
    intro e he
    refine hrest e.1 ?_
    rw [retinue_eq]
    exact List.mem_map_of_mem he
  rw [← h.actions_resting hx fun e he => hcompany e (List.mem_append_left _ he),
    List.filterMap_eq_flatMap_toList]
  refine (h.executed_perm hx).trans (List.Perm.of_eq (List.flatMap_congr fun e he => ?_))
  obtain ⟨p, hp, hjob⟩ := h.company_party hx he
  obtain ⟨action, -, haction⟩ := h.exists_action hx he
  have hroot := assignments_root h.root
    ((hx.company_jobs h.jobs h.party).subset (List.mem_map_of_mem he))
  rw [haction, Option.toList_some]
  exact hx.asked_resting hp (hjob ▸ haction) (hjob ▸ hroot) (hcompany e he)

end Appointed

/-- Tasks are attributed to themselves or to earlier tasks. -/
theorem Kinship.originOf_le (h : x.Kinship) (c : TaskId) : x.originOf c ≤ c := by
  induction c using Nat.strongRecOn with
  | ind c ih =>
    cases hkin : x.kin? c with
    | none =>
      rw [originOf_eq, hkin]
      exact Nat.le_refl c
    | some k =>
      obtain ⟨job, origin⟩ := k
      have horigin : x.originOf c = origin := by
        rw [originOf_eq, hkin]
        rfl
      rw [horigin]
      rcases h.parent c origin job hkin with rfl | ⟨b, hb, rfl⟩
      · exact Nat.le_refl _
      · have hlt := (h.started b c job hb).1
        exact Nat.le_of_lt (Nat.lt_of_le_of_lt (ih b hlt) hlt)

/-- What was asked after a registration had started tasks was asked after it had succeeded. -/
theorem Reachable.succeeded_of_asked (h : Reachable s x) {pre post : List Moment} {b c : TaskId}
    {op : Ask} (hm : x.moments = pre ++ .asked c op :: post) {job : Job}
    (hc : (c, job) ∈ x.spawns b) (hjob : job.isActivation = false) {p : Party}
    (hp : x.parties[b]? = some p) {options : Options} (hchain : p.job = .chain options) :
    (dialogueAt pre b).succeeded = true := by
  obtain ⟨y, next, hy, rfl, hready, -, hkin⟩ := h.snapshot hm
  obtain ⟨hlt, hkinc⟩ := h.kinship.started b c job hc
  -- The task took part when it asked, so it had been started by then, and by the same task.
  obtain ⟨q, hq, -⟩ := state?_eq_some.1 hready
  have hkiny := kin?_of_party hq
  have hsame := (hkin c _ hkiny).symm.trans hkinc
  simp only [Option.some.injEq, Prod.mk.injEq, hjob, Bool.false_eq_true, if_false] at hsame
  obtain ⟨rfl, horigin⟩ := hsame
  have hspawned : (c, q.job) ∈ y.spawns b := by
    rcases hy.kinship.parent c q.origin q.job hkiny with hself | ⟨b', hb', -⟩
    · have hle := h.kinship.originOf_le b
      rw [← horigin, hself] at hle
      exact absurd (Nat.lt_of_lt_of_le hlt hle) (Nat.lt_irrefl _)
    · have hlater : (c, q.job) ∈ x.spawns b' := by
        rw [spawns, dialogue, hm, List.filterMap_append, Dialogue.spawned_append]
        exact List.mem_append_left _ hb'
      rwa [h.kinship.single b b' c _ _ hc hlater]
  obtain ⟨a, ha, hspawn⟩ := List.mem_filterMap.1 hspawned
  obtain ⟨t, u, htu⟩ := List.append_of_mem ha
  have hne : y.dialogue b ≠ [] := by
    rw [htu]
    simp
  obtain ⟨pb, hpb⟩ := hy.exists_party hne
  have hpbjob : pb.job = .chain options := (job_eq_of_kin? hkin hp hpb).trans hchain
  have hask := (hy.follows (Job.program_errand s) b pb hpb).1 t a u htu
  rw [hpbjob] at hask
  obtain ⟨aop, areply⟩ := a
  cases aop with
  | spawn name job' =>
    -- It was started by a task that had its registration behind it.
    have hsuccess := (hask.spawn name job' rfl).1
    change (y.dialogue b).succeeded = true
    rw [htu]
    cases t with
    | nil => cases hsuccess
    | cons first t => exact hsuccess
  | _ => cases hspawn

/-- What holds, at any time, of tasks that were started for a decision and of those that they have
started. -/
structure Contained (x : Interleaving) (d : Decision) (ids : List TaskId) : Prop where
  /-- No action is done twice. -/
  once : (x.executed (x.retinue ids)).Nodup
  /-- The actions are those of the decision. -/
  called : ∀ action ∈ x.executed (x.retinue ids), action ∈ d.actions
  /-- As soon as none of the tasks is ready, what the decision calls for has been asked for, no
  matter what has been answered and what is still awaited. -/
  settled : (∀ c ∈ x.retinue ids, x.Resting c) →
    (x.executed (x.retinue ids)).Perm (d.prescribed (x.registered ids))
  /-- A project that is registered first is watched and refreshed only after the registration has
  been answered with a success. -/
  after : d = .registerFirst → ∀ pre c op post, x.moments = pre ++ .asked c op :: post →
    c ∈ x.retinue ids → op.action? ≠ some .register → ∃ b ∈ ids, (dialogueAt pre b).succeeded = true
  /-- No task fails. -/
  sound : ∀ c ∈ x.retinue ids, ∀ r, x.state? c = some (.ended r) → ∃ result, r = .ok result

/-- The tasks of a decision are contained, whatever has happened. -/
theorem Reachable.contained (hx : Reachable s x) {o : Options} {d : Decision}
    {tasks : List (TaskId × Job)} (h : x.Appointed o d tasks) :
    x.Contained d (tasks.map Prod.fst) := by
  obtain ⟨l, hperm, hpart⟩ := h.executed_sublist hx
  refine ⟨?_, fun action haction => ?_, h.executed_resting hx, ?_, fun c hc r hr => ?_⟩
  · exact (hperm.nodup_iff).2 (hpart.nodup d.nodup_actions)
  · exact hpart.subset (hperm.mem_iff.1 haction)
  · rintro rfl pre c op post hm hc hop
    obtain ⟨b, p, rfl, hcompany, hp, hchain⟩ := h.exists_chain
    rw [retinue_eq, hcompany, List.map_cons, List.mem_cons] at hc
    refine ⟨b, List.mem_cons_self, ?_⟩
    have hmem : op ∈ x.asked c := mem_asked.2 (by rw [hm]; simp)
    rcases hc with rfl | hc
    · -- The registration itself asks for nothing else.
      have haction : p.job.action? = some .register := by
        rw [hchain]
        rfl
      obtain ⟨-, hexec⟩ := hx.errand_of_asked hp haction hmem
      rw [hexec.action?] at hop
      exact absurd rfl hop
    · obtain ⟨⟨c', job⟩, hspawned, rfl⟩ := List.mem_map.1 hc
      refine hx.succeeded_of_asked hm hspawned ?_ hp hchain
      have hfollows := (hx.spawns_chain hp hchain).subset (List.mem_map_of_mem hspawned)
      simp only [Dispatch.followers, List.mem_cons, List.not_mem_nil, or_false] at hfollows
      rcases hfollows with rfl | rfl
      · rfl
      · rfl
  · obtain ⟨p, action, hp, haction⟩ := h.exists_errand hx hc
    obtain ⟨q, hq, hstate⟩ := state?_eq_some.1 hr
    obtain rfl := Option.some.inj (hp.symm.trans hq)
    exact (hx.errand_ended hp haction hstate).2

section Conduct

/-- A task that is started outside of any task is started by the host. -/
theorem promptly_spawn (x : Interleaving) (name : String) (job : Job) :
    x.promptly x.parties.length (.spawn name job) =
      some (.ok x.parties.length, x.move (.start job)) := by
  have horigin : x.originOf x.parties.length = x.parties.length := by
    rw [originOf, List.getElem?_eq_none (Nat.le_refl _)]
    rfl
  rw [promptly, horigin]
  rfl

/-- To log changes nothing. -/
theorem conduct_log {α : Type} (x : Interleaving) (level : Level) (source : Source)
    (text : String) (f : Unit → Program α) :
    x.conduct (Program.log level source text >>= f) = x.conduct (f ()) := rfl

/-- A task that is started gets the next number. -/
theorem conduct_spawn {α : Type} (x : Interleaving) (name : String) (job : Job)
    (f : TaskId → Program α) :
    x.conduct (Program.spawn name job >>= f) =
      (x.move (.start job)).conduct (f x.parties.length) := by
  change (match x.promptly x.parties.length (.spawn name job) with
    | some (reply, y) => conduct (Program.done reply >>= f) y
    | none => (none, x)) = _
  rw [promptly_spawn]
  rfl

/-- A dispatch starts the tasks of the decision, tells their numbers, and does nothing else. -/
theorem conduct_dispatch (x : Interleaving) (d : Decision) (project : Project)
    (options : Option Options) :
    x.conduct (Dispatch.dispatch d project options) =
      (some (.ok (List.range' x.parties.length
        (Dispatch.jobs (Dispatch.projectOptions project options) d).length)),
        x.startAll (Dispatch.jobs (Dispatch.projectOptions project options) d)) := by
  have hnext : ∀ job, (x.move (.start job)).parties.length = x.parties.length + 1 :=
    fun job => length_parties_add x job _
  cases d with
  | synced => rfl
  | refreshOnly =>
    simp only [Dispatch.dispatch, Dispatch.start, conduct_log, conduct_spawn]
    rfl
  | fullRefreshAndWatch =>
    simp only [Dispatch.dispatch, Dispatch.start, conduct_log, conduct_spawn, hnext]
    rfl
  | registerFirst =>
    simp only [Dispatch.dispatch, conduct_log, conduct_spawn]
    rfl

/-- The host starts tasks under the next numbers, and nothing happens to those that were there. -/
theorem startAll_facts (x : Interleaving) (jobs : List Job) :
    (x.startAll jobs).moments = x.moments ∧
      (x.startAll jobs).parties.length = x.parties.length + jobs.length ∧
      (∀ i : Nat, i < x.parties.length → (x.startAll jobs).parties[i]? = x.parties[i]?) ∧
      ∀ e ∈ (List.range' x.parties.length jobs.length).zip jobs,
        ∃ p, (x.startAll jobs).parties[e.1]? = some p ∧ p.job = e.2 := by
  induction jobs generalizing x with
  | nil => exact ⟨rfl, rfl, fun _ _ => rfl, fun e he => by cases he⟩
  | cons job jobs ih =>
    have hnext : (x.move (.start job)).parties.length = x.parties.length + 1 :=
      length_parties_add x job _
    obtain ⟨hmoments, hlength, hold, hnew⟩ := ih (x.move (.start job))
    refine ⟨hmoments, ?_, fun i hi => ?_, fun e he => ?_⟩
    · rw [List.length_cons, Nat.add_comm jobs.length, ← Nat.add_assoc, ← hnext]
      exact hlength
    · exact (hold i (by rw [hnext]; omega)).trans (parties_add_of_lt x hi)
    · rw [List.length_cons, List.range'_succ, List.zip_cons_cons, List.mem_cons] at he
      rcases he with rfl | he
      · refine ⟨_, (hold _ (by rw [hnext]; omega)).trans (parties_add_self x job _), rfl⟩
      · rw [hnext] at hnew
        exact hnew e he

/-- The tasks that a dispatch starts are appointed to the decision, and they stay so. -/
theorem appointed_startAll (x : Interleaving) (d : Decision) (project : Project)
    (options : Option Options) (later : List Move) :
    ∃ tasks, tasks.map Prod.fst = List.range' x.parties.length
        (Dispatch.jobs (Dispatch.projectOptions project options) d).length ∧
      (later.foldl move (x.startAll
        (Dispatch.jobs (Dispatch.projectOptions project options) d))).Appointed
        (Dispatch.projectOptions project options) d tasks := by
  set jobs := Dispatch.jobs (Dispatch.projectOptions project options) d with hjobs
  obtain ⟨-, -, -, hnew⟩ := x.startAll_facts jobs
  have hids : ((List.range' x.parties.length jobs.length).zip jobs).map Prod.fst =
      List.range' x.parties.length jobs.length := List.map_fst_zip (by simp)
  refine ⟨(List.range' x.parties.length jobs.length).zip jobs, hids, ?_, ?_, fun e he => ?_, ?_⟩
  · exact List.map_snd_zip (by simp)
  · rw [hids]
    exact List.nodup_range'
  · -- Tasks keep their jobs.
    obtain ⟨p, hp, hjob⟩ := hnew e he
    obtain ⟨q, hq, hsame, -⟩ := exists_party_of_kin? (kin?_foldl_move later (kin?_of_party hp))
    exact ⟨q, hq, hsame.trans hjob⟩
  · have hne : Setting.projectRoot.key ≠ Setting.manifestPath.key := by decide
    rw [Dispatch.projectOptions, Options.get?_put, if_neg hne, Options.get?_put, if_pos rfl]
    exact Option.some_ne_none _

end Conduct

end Interleaving

end IndexSync
