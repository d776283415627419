import IndexSync.Proofs.Interleaving.Errands

/-!
# Registrations

A project that the service does not know is registered by a task of its own, which the activation
that decided so leaves behind. The claim on the project is given up before that task has sent its
request, so a second activation may find the project unknown as well, and two registrations of one
project may be awaited at once.

* `Interleaving.Registering x c key` — a task awaits the registration of the project with a key;
* `Interleaving.registrations_overlap` — two tasks may do so for one key;
* `Interleaving.registrations_in_turn` — an activation has ended and given up its claim on the
  project by the time that its registration is awaited, and no other one is awaited on its behalf;
  if two are awaited for one project, then one activation had given up its claim before the other
  made it.
-/

namespace IndexSync.Interleaving

open Program

variable {s : Setup} {x y : Interleaving}

/-- A task has sent the request to register the project with a key and awaits the response. -/
def Registering (x : Interleaving) (c : TaskId) (key : String) : Prop :=
  ∃ params root next,
    x.state? c = some (.blocked (.request Action.register.name params) next) ∧
    params.get? Setting.root.key = some (.str root) ∧ PathKey.ofText x.setup.caseRule root = key

/-- One task gave up its claim on a key before another one made its own. -/
def InTurn (x : Interleaving) (a b : TaskId) (key : String) : Prop :=
  ∃ before after, x.moments = before ++ .answered a ⟨.leave key, .ok ()⟩ :: after ∧
    .answered b ⟨.enter key, .ok true⟩ ∈ after

/-- A task has claimed a key at some time. -/
def Claimed (x : Interleaving) (a : TaskId) (key : String) : Prop :=
  ⟨.enter key, .ok true⟩ ∈ x.dialogue a

/-- What happened in turn has happened in turn ever after. -/
theorem InTurn.append {a b : TaskId} {key : String} (h : x.InTurn a b key) {l : List Moment}
    (hy : y.moments = x.moments ++ l) : y.InTurn a b key := by
  obtain ⟨before, after, hmoments, hmem⟩ := h
  refine ⟨before, after ++ l, ?_, List.mem_append_left l hmem⟩
  rw [hy, hmoments, List.append_assoc, List.cons_append]

/-- A step claims a key for a task, or the task had claimed it before. -/
theorem Reachable.claimed_step (h : Reachable s x) (hstep : Step x y) {a : TaskId} {key : String}
    (hclaimed : y.Claimed a key) :
    x.Claimed a key ∨
      key ∉ x.inFlight ∧ y.moments = x.moments ++ [.answered a ⟨.enter key, .ok true⟩] := by
  -- An answer is a new claim only if it goes to the task and is a test that has found the key free.
  have hanswer : ∀ (z : Interleaving) id (ans : Answer) p, z.dialogue a = x.dialogue a →
      (z.answer id ans p).Claimed a key →
      x.Claimed a key ∨ id = a ∧ ans = ⟨.enter key, .ok true⟩ := by
    intro z id ans p hz hmem
    rw [Claimed, dialogue_answer, List.mem_append, hz] at hmem
    refine hmem.imp_right fun hmem => ?_
    split at hmem
    · next hid => exact ⟨hid, (List.mem_singleton.1 hmem).symm⟩
    · cases hmem
  cases hstep with
  | start job => exact Or.inl hclaimed
  | tell hid => exact (hanswer x _ _ _ rfl hclaimed).imp_right fun ⟨_, heq⟩ => by simp at heq
  | @claim id k next hid hfree =>
    refine (hanswer (x.setInFlight (k :: x.inFlight)) id _ (next (.ok true)) rfl
      hclaimed).imp_right fun ⟨hid', heq⟩ => ?_
    simp only [Answer.mk.injEq, Ask.enter.injEq] at heq
    obtain ⟨rfl, -⟩ := heq
    subst hid'
    exact ⟨hfree, rfl⟩
  | refuse hid htaken =>
    refine (hanswer x _ _ _ rfl hclaimed).imp_right fun ⟨_, heq⟩ => ?_
    simp only [Answer.mk.injEq, Ask.enter.injEq] at heq
    obtain ⟨rfl, heq⟩ := heq
    cases heq
  | @release id k next hid =>
    exact (hanswer (x.setInFlight (x.inFlight.erase k)) id _ (next (.ok ())) rfl
      hclaimed).imp_right fun ⟨_, heq⟩ => by simp at heq
  | @spawn id name job next hid =>
    exact (hanswer (x.add job (x.originOf id)) id _ (next (.ok x.parties.length)) rfl
      hclaimed).imp_right fun ⟨_, heq⟩ => by simp at heq
  | pause hid hop =>
    rw [Claimed, dialogue_note_asked] at hclaimed
    exact Or.inl hclaimed
  | @reply id op next hid reply =>
    refine (hanswer x _ _ _ rfl hclaimed).imp_right fun ⟨_, heq⟩ => ?_
    have hop := h.orderly.pauses id op next hid
    obtain rfl : op = .enter key := congrArg Answer.op heq
    cases hop
  | finish hid => exact Or.inl hclaimed

/-- Two tasks that have claimed one key did so in turn. -/
theorem Reachable.inTurn (h : Reachable s x) {a b : TaskId} {key : String} (hne : a ≠ b)
    (ha : x.Claimed a key) (hb : x.Claimed b key) : x.InTurn a b key ∨ x.InTurn b a key := by
  suffices hall : x.Claimed a key → x.Claimed b key → x.InTurn a b key ∨ x.InTurn b a key from
    hall ha hb
  -- The invariant is about both tasks at once, as either may be the one that claims the key last.
  refine h.induction (P := fun x => x.Claimed a key → x.Claimed b key →
    x.InTurn a b key ∨ x.InTurn b a key) (fun ha _ => ?_) fun x y hx ih hstep ha hb => ?_
  · simp [Claimed, dialogue] at ha
  · -- Whoever claimed the key before has given it up by the time it is claimed again.
    have hlater : ∀ {c d : TaskId}, x.Claimed c key → key ∉ x.inFlight →
        y.moments = x.moments ++ [.answered d ⟨.enter key, .ok true⟩] → y.InTurn c d key := by
      intro c d hc hfree hmoments
      have hleave := mem_dialogue.1 (hx.leave_of_claim hc hfree)
      obtain ⟨before, after, hsplit⟩ := List.append_of_mem hleave
      refine ⟨before, after ++ [.answered d ⟨.enter key, .ok true⟩], ?_, by simp⟩
      rw [hmoments, hsplit, List.append_assoc, List.cons_append]
    rcases hx.claimed_step hstep ha with hxa | ⟨hfree, hmoments⟩
    · rcases hx.claimed_step hstep hb with hxb | ⟨hfree, hmoments⟩
      · obtain ⟨l, hl⟩ : ∃ l, y.moments = x.moments ++ l := by
          rcases hstep.moments with hsame | ⟨id, ans, hanswered⟩ | ⟨id, op, next, hasked, -⟩
          · exact ⟨[], by rw [hsame, List.append_nil]⟩
          · exact ⟨_, hanswered⟩
          · exact ⟨_, hasked⟩
        exact (ih hxa hxb).imp (fun hturn => hturn.append hl) fun hturn => hturn.append hl
      · exact Or.inl (hlater hxa hfree hmoments)
    · rcases hx.claimed_step hstep hb with hxb | ⟨-, hmoments'⟩
      · exact Or.inr (hlater hxb hfree hmoments)
      · -- One step claims the key for one task only.
        rw [hmoments] at hmoments'
        have hlast := List.append_cancel_left hmoments'
        simp only [List.cons.injEq, Moment.answered.injEq, and_true] at hlast
        exact absurd hlast hne

/-- The settings that the tasks of a decision are given name the root of the project. -/
theorem taskOptions_root (s : Setup) (project : Project) (options : Option Options) :
    (Activation.taskOptions s project options).get? Setting.projectRoot.key =
      some (.str project.root.text) := by
  have hne : Setting.projectRoot.key ≠ Setting.manifestPath.key := by decide
  rw [Activation.taskOptions, Dispatch.projectOptions, Options.get?_put, if_neg hne,
    Options.get?_put, if_pos rfl]

/-- The parameters of every request for an action name the root. -/
theorem params_root (action : Action) (root : Value) (options : Options) :
    (action.params root options).get? Setting.root.key = some root := by
  cases action <;> rfl

/-- An activation sends no request for an action itself. -/
theorem Reachable.ne_of_registering (h : Reachable s x) {c : TaskId} {key : String}
    (hc : x.Registering c key) {p : Party} (hp : x.parties[c]? = some p) :
    p.job.activation? = none := by
  obtain ⟨params, root, next, hstate, -, -⟩ := hc
  cases hjob : p.job.activation? with
  | none => rfl
  | some options =>
    exfalso
    obtain ⟨q, hq, hblocked⟩ := state?_eq_some.1 hstate
    obtain rfl := Option.some.inj (hp.symm.trans hq)
    obtain ⟨-, hrest⟩ := h.follows (Job.program_guarded s) c p hp
    rw [hblocked, Task.State.residual, ensures_ask, Job.GuardedAsk, hjob] at hrest
    rcases (Activation.guardedAsk_of_not_isGuard rfl).1 hrest.1 with
      ⟨-, hprobe⟩ | ⟨project, next, hinside⟩ | ⟨project, -, hprompt⟩
    · simp [Ask.isProbe, Action.name, Poll.pingRequest] at hprobe
    · obtain ⟨before, inside, -, -, hask⟩ := hinside.ask
      obtain ⟨heq, -⟩ := hask.request _ rfl
      have hname : Action.register.name = Registry.listRequest :=
        Option.some.inj (congrArg Ask.requestName? heq)
      exact absurd hname (by decide)
    · cases hprompt

/-- The actions have different names. -/
theorem action_name_inj {action other : Action} (h : action.name = other.name) :
    action = other := by
  cases action <;> cases other <;> first | rfl | exact absurd h (by decide)

section Run

variable {moves : List Move} {a c : TaskId} {p : Party} {options : Option Options} {key : String}

/-- The errand of an activation that registers a project is the only task that the activation has
started, for the decision to do so. -/
theorem run_register_errand (hp : (run s moves).parties[a]? = some p)
    (hjob : p.job.activation? = some options) {job : Job}
    (hmem : (c, job) ∈ (run s moves).errands a) (haction : job.action? = some .register) :
    ∃ project, Activation.Closed s options ((run s moves).dialogue a) project .registerFirst ∧
      p.state = .ended (.ok (.activation (some ⟨.dispatched, some project, some .registerFirst⟩))) ∧
      job = .chain (Activation.taskOptions s project options) ∧
      (run s moves).spawns a = [(c, job)] := by
  obtain ⟨project, d, hclosed, hstate, hjobs⟩ :=
    run_started hp hjob (spawns_ne_nil_of_mem_errands hmem)
  have hdirect : (c, job) ∈ (run s moves).spawns a := by
    refine (List.mem_append.1 hmem).resolve_right fun hlater => ?_
    -- The tasks that an errand starts do not register anything.
    obtain ⟨⟨b, jb⟩, hb, hc⟩ := List.mem_flatMap.1 hlater
    obtain ⟨action, o, rfl, hne⟩ := run_follower hp hjob hb hc
    exact hne (Option.some.inj haction)
  have hin : job ∈ Activation.jobs s project options d := by
    rw [← hjobs]
    exact List.mem_map_of_mem hdirect
  cases d with
  | synced => cases hin
  | refreshOnly =>
    rw [Activation.jobs, List.mem_singleton] at hin
    subst hin
    cases haction
  | fullRefreshAndWatch =>
    simp only [Activation.jobs, List.mem_cons, List.not_mem_nil, or_false] at hin
    rcases hin with rfl | rfl
    · cases haction
    · cases haction
  | registerFirst =>
    rw [Activation.jobs, List.mem_singleton] at hin
    refine ⟨project, hclosed, hstate, hin, ?_⟩
    obtain ⟨e, he⟩ : ∃ e, (run s moves).spawns a = [e] := by
      have hlen := congrArg List.length hjobs
      rw [List.length_map] at hlen
      exact List.length_eq_one_iff.1 hlen
    rw [he, List.mem_singleton] at hdirect
    rw [he, hdirect]

/-- A registration that is awaited on behalf of an activation is the errand of the decision that
the activation has ended with, for the project that it had claimed and given up again. -/
theorem run_registering (hp : (run s moves).parties[a]? = some p)
    (hjob : p.job.activation? = some options) (hc : (run s moves).Registering c key)
    (horigin : (run s moves).originOf c = a) :
    ∃ project job, s.key project = key ∧
      p.state = .ended (.ok (.activation (some ⟨.dispatched, some project, some .registerFirst⟩))) ∧
      (run s moves).Claimed a key ∧ ⟨.leave key, .ok ()⟩ ∈ (run s moves).dialogue a ∧
      (run s moves).spawns a = [(c, job)] := by
  have hx := run_reachable s moves
  obtain ⟨params, root, next, hstate, hroot, hkey⟩ := hc
  obtain ⟨q, hq, hblocked⟩ := state?_eq_some.1 hstate
  have hqjob := hx.ne_of_registering ⟨params, root, next, hstate, hroot, hkey⟩ hq
  have hne : c ≠ a := by
    rintro rfl
    obtain rfl := Option.some.inj (hp.symm.trans hq)
    rw [hjob] at hqjob
    cases hqjob
  have hmem := run_mem_errands hp hjob (kin?_of_originOf hq horigin) hne
  have hasked : .request Action.register.name params ∈ (run s moves).asked c := by
    rw [hx.recorded c, awaiting_of_state? hstate]
    simp [Task.State.pending]
  obtain ⟨action, haction, -⟩ := run_errand_action hp hjob hmem
  -- What the task has asked is the one question that has its action done.
  obtain ⟨-, hexec⟩ := hx.errand_of_asked hq haction hasked
  obtain rfl : action = .register := action_name_inj (hexec.requestName? rfl).symm
  obtain ⟨project, ⟨before, inside, hdialogue, -, -⟩, hpstate, hchain, hspawns⟩ :=
    run_register_errand hp hjob hmem haction
  have hkeys : s.key project = key := by
    rw [hchain] at hexec
    -- The root that was sent is the one in the settings of the task, which the decision has set.
    rcases hexec with ⟨-, value, hvalue, heq⟩ | ⟨-, heq⟩
    · obtain ⟨-, rfl⟩ := Ask.request.inj heq
      rw [params_root, Option.some.injEq] at hroot
      rw [hroot] at hvalue
      have hsame := (taskOptions_root s project options).symm.trans hvalue
      simp only [Option.some.injEq, Value.str.injEq] at hsame
      rw [← hkey, ← hsame, hx.orderly.setup]
      rfl
    · cases heq
  refine ⟨project, q.job, hkeys, hpstate, ?_, ?_, hspawns⟩
  · rw [Claimed, hdialogue, hkeys]
    simp
  · rw [hdialogue, hkeys]
    simp

/-- A registration that is awaited on behalf of an activation is for the project that the activation
has ended with the decision to register, and the claim on the project was given up. No two
registrations are awaited on behalf of one activation, whatever their projects. If two registrations
of one project are awaited on behalf of activations, then one of these had given up its claim on the
project before the other made it. -/
theorem registrations_in_turn (s : Setup) (moves : List Move) :
    (∀ c key p, (run s moves).Registering c key →
      (run s moves).parties[(run s moves).originOf c]? = some p → p.job.isActivation = true →
      (∃ project, s.key project = key ∧ p.state = .ended
        (.ok (.activation (some ⟨.dispatched, some project, some .registerFirst⟩)))) ∧
      ⟨.leave key, .ok ()⟩ ∈ (run s moves).dialogue ((run s moves).originOf c)) ∧
    ∀ c d key key' p q, c ≠ d → (run s moves).Registering c key →
      (run s moves).Registering d key' →
      (run s moves).parties[(run s moves).originOf c]? = some p →
      (run s moves).parties[(run s moves).originOf d]? = some q →
      p.job.isActivation = true → q.job.isActivation = true →
      (run s moves).originOf c ≠ (run s moves).originOf d ∧
      (key = key' →
        (run s moves).InTurn ((run s moves).originOf c) ((run s moves).originOf d) key ∨
          (run s moves).InTurn ((run s moves).originOf d) ((run s moves).originOf c) key) := by
  refine ⟨fun c key p hc hp hpa => ?_, fun c d key key' p q hne hc hd hp hq hpa hqa => ?_⟩
  · obtain ⟨options, hjob⟩ := Job.exists_activation? hpa
    obtain ⟨project, -, hkey, hstate, -, hleave, -⟩ := run_registering hp hjob hc rfl
    exact ⟨⟨project, hkey, hstate⟩, hleave⟩
  · obtain ⟨options, hjob⟩ := Job.exists_activation? hpa
    obtain ⟨options', hjob'⟩ := Job.exists_activation? hqa
    obtain ⟨-, job, -, -, hclaimed, -, hspawns⟩ := run_registering hp hjob hc rfl
    obtain ⟨-, job', -, -, hclaimed', -, hspawns'⟩ := run_registering hq hjob' hd rfl
    -- An activation that registers starts one task only.
    have horigins : (run s moves).originOf c ≠ (run s moves).originOf d := by
      intro heq
      rw [heq, hspawns'] at hspawns
      simp only [List.cons.injEq, Prod.mk.injEq, and_true] at hspawns
      exact hne hspawns.1.symm
    refine ⟨horigins, ?_⟩
    rintro rfl
    exact (run_reachable s moves).inTurn horigins hclaimed hclaimed'

end Run

section Overlap

/-- An activation goes through, and the task that it has started sends its request. -/
def passage (a : TaskId) : List Move :=
  let turn : List Move := [.go a, .reply a obliging]
  .start (.activation none) :: (turn ++ turn ++ turn ++ turn) ++ [.go a, .go (a + 1)]

/-- Two tasks may await the registration of one project. -/
theorem registrations_overlap :
    ¬∀ (s : Setup) (moves : List Move), s.crew = [] → ∀ c d key,
      (run s moves).Registering c key → (run s moves).Registering d key → c = d := by
  intro h
  have heq := h .standard (passage 0 ++ passage 2) rfl 1 3 (PathKey.ofText .sensitive "/p")
    ⟨_, "/p", _, rfl, rfl, rfl⟩ ⟨_, "/p", _, rfl, rfl, rfl⟩
  cases heq

/-- The two tasks are errands of two activations, of which one came after the other. -/
theorem passage_in_turn : ∃ key, (run .standard (passage 0 ++ passage 2)).Registering 1 key ∧
    (run .standard (passage 0 ++ passage 2)).Registering 3 key ∧
    ((run .standard (passage 0 ++ passage 2)).InTurn 0 2 key ∨
      (run .standard (passage 0 ++ passage 2)).InTurn 2 0 key) := by
  have hc : (run .standard (passage 0 ++ passage 2)).Registering 1
      (PathKey.ofText .sensitive "/p") :=
    ⟨_, "/p", _, rfl, rfl, rfl⟩
  have hd : (run .standard (passage 0 ++ passage 2)).Registering 3
      (PathKey.ofText .sensitive "/p") :=
    ⟨_, "/p", _, rfl, rfl, rfl⟩
  obtain ⟨-, hturn⟩ := (registrations_in_turn .standard (passage 0 ++ passage 2)).2 1 3 _ _ _ _
    (by decide) hc hd rfl rfl rfl rfl
  exact ⟨_, hc, hd, hturn rfl⟩

end Overlap

end IndexSync.Interleaving
