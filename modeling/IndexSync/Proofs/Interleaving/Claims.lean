import IndexSync.Proofs.Activation.Guard
import IndexSync.Proofs.Validation

/-!
# Claims in interleavings

However activations take turns, the keys that are claimed are those of the projects that are being
reconciled, each by one activation only.

* `Interleaving.Reachable.claims` — the claims are what the dialogues of the tasks say is held;
* `Interleaving.guarded_reconciliation` — the guard of projects, for every interleaving.
-/

namespace IndexSync

open Program

/-- A question that tasks other than activations ask: it is no matter of projects, and what it
requests of the service is an action. -/
def Ask.IsChore : Ask → Prop
  | .request name _ => ∃ action : Action, name = action.name
  | .locate => False
  | .assess _ _ _ => False
  | .enter _ => False
  | .leave _ => False
  | .consult => False
  | _ => True

/-- Chores are no matter of claims. -/
theorem Ask.IsChore.isGuard {op : Ask} (h : op.IsChore) : op.isGuard = false := by
  cases op with
  | enter key => exact h.elim
  | leave key => exact h.elim
  | _ => rfl

namespace Job

/-- The settings of a job that is an activation, or the part of one that follows a successful
probe. -/
def activation? : Job → Option (Option Options)
  | .activation options => some options
  | .resolution options => some options
  | _ => none

theorem isSome_activation? (job : Job) : job.activation?.isSome = job.isActivation := by
  cases job <;> rfl

theorem isActivation_of_activation? {job : Job} {options : Option Options}
    (h : job.activation? = some options) : job.isActivation = true := by
  rw [← isSome_activation?, h]
  rfl

/-- Activations have settings. -/
theorem exists_activation? {job : Job} (h : job.isActivation = true) :
    ∃ options, job.activation? = some options :=
  Option.isSome_iff_exists.1 ((isSome_activation? job).trans h)

/-- When a task asks what, by its job. -/
def GuardedAsk (s : Setup) (job : Job) (t : Dialogue) (op : Ask) : Prop :=
  match job.activation? with
  | some options => Activation.GuardedAsk s options t op
  | none => op.isGuard = false

/-- The result of an activation, if that is what a job ended with. -/
def Result.activation? : Except Failure Job.Result → Option Activation.Result
  | .ok (.activation result) => result
  | _ => none

/-- A job that ended with the result of an activation ended with nothing else. -/
theorem Result.eq_of_activation? {r : Except Failure Job.Result} {result : Activation.Result}
    (h : Result.activation? r = some result) : r = .ok (.activation (some result)) := by
  match r with
  | .error e => cases h
  | .ok (.value v) => cases h
  | .ok (.activation o) =>
    obtain rfl : o = _ := h
    rfl

/-- When a task ends, by its job. -/
def GuardedEnd (s : Setup) (job : Job) (t : Dialogue) (r : Except Failure Job.Result) : Prop :=
  match job.activation? with
  | some options => Activation.GuardedEnd s options t (Result.activation? r)
  | none => True

/-- Scripted work consists of chores. -/
theorem workProgram_only (items : List WorkItem) :
    (workProgram items).Only Ask.IsChore := by
  induction items with
  | nil => trivial
  | cons item items ih =>
    cases item with
    | note v => exact Only.bind (only_call.2 trivial) fun _ => ih
    | gate name => exact Only.bind (only_call.2 trivial) fun _ => ih
    | wait ms => exact Only.bind (only_call.2 trivial) fun _ => ih
    | spawn name work =>
      exact Only.bind (only_call.2 trivial) fun _ => Only.bind (only_call.2 trivial) fun _ => ih
    | fail text => trivial
    | finish v => trivial

/-- Having an action done is a chore. -/
theorem execute_only (crew : Crew) (action : Action) (options : Options) :
    (Dispatch.execute crew action options).Only Ask.IsChore := by
  rw [Dispatch.execute]
  split
  · exact only_call.2 trivial
  · refine Only.bind ?_ fun _ => trivial
    rw [Dispatch.command]
    split
    · trivial
    · refine Only.bind (only_call.2 ⟨action, rfl⟩) fun response => ?_
      dsimp only
      split
      · exact Only.bind (only_call.2 trivial) fun _ => trivial
      · trivial

/-- Tasks that are no activations do nothing but chores. -/
theorem program_only (s : Setup) {job : Job} (h : job.activation? = none) :
    (job.program s).Only Ask.IsChore := by
  cases job with
  | activation options => cases h
  | resolution options => cases h
  | chain options =>
    refine Only.bind (Only.bind ?_ fun registered => ?_) fun _ => trivial
    · refine Only.bind (execute_only _ _ _).attempt fun r => ?_
      split
      · trivial
      · exact Only.bind (only_call.2 trivial) fun _ => trivial
    · split
      · exact Only.bind (only_call.2 trivial) fun _ =>
          Only.bind (only_call.2 trivial) fun _ => trivial
      · exact Only.bind (only_call.2 trivial) fun _ => trivial
  | call action options =>
    refine Only.bind ?_ fun _ => trivial
    refine Only.bind (execute_only _ _ _).attempt fun r => ?_
    split
    · trivial
    · exact only_call.2 trivial
  | front =>
    refine Only.bind (Only.bind (only_call.2 trivial) fun _ => only_call.2 trivial) fun task => ?_
    exact Only.bind (only_call.2 trivial) fun _ => Only.bind (only_call.2 trivial) fun _ => trivial
  | work items => exact Only.bind (workProgram_only items) fun _ => trivial
  | drain => exact Only.bind (only_call.2 trivial) fun _ => trivial

/-- Every job keeps to the guard. -/
theorem program_guarded (s : Setup) (job : Job) :
    (job.program s).Ensures (job.GuardedAsk s) (job.GuardedEnd s) [] := by
  cases hjob : job.activation? with
  | none =>
    refine ((program_only s hjob).ensures []).mono (fun t op hop => ?_) fun t r _ => ?_
    · rw [GuardedAsk, hjob]
      exact hop.isGuard
    · rw [GuardedEnd, hjob]
      trivial
  | some options =>
    cases job with
    | activation o =>
      obtain rfl := Option.some.inj hjob
      rw [Job.program, ensures_bind]
      refine Activation.run_ensures.weaken ?_
      rintro t (e | result) hr
      · exact hr
      · exact hr
    | resolution o =>
      obtain rfl := Option.some.inj hjob
      rw [Job.program, ensures_bind]
      refine (Activation.resolve_ensures Activation.outside_nil 0).weaken ?_
      rintro t (e | _ | result) hr
      · exact hr
      · exact hr.noResult
      · exact hr
    | _ => cases hjob

end Job

/-- The keys that are claimed after an answer. -/
def Answer.claimed (keys : List String) : Answer → List String
  | ⟨.enter key, .ok true⟩ => key :: keys
  | ⟨.leave key, .ok _⟩ => keys.erase key
  | _ => keys

/-- The keys that are claimed after a dialogue. -/
def Dialogue.claimed (keys : List String) (t : Dialogue) : List String :=
  t.foldl (fun keys a => a.claimed keys) keys

theorem Dialogue.claimed_append (keys : List String) (t u : Dialogue) :
    Dialogue.claimed keys (t ++ u) = Dialogue.claimed (Dialogue.claimed keys t) u :=
  List.foldl_append

/-- Without questions about claims, the same keys are claimed as before. -/
theorem Dialogue.claimed_of_not_isGuard (keys : List String) {t : Dialogue}
    (h : ∀ a ∈ t, a.op.isGuard = false) : Dialogue.claimed keys t = keys := by
  induction t generalizing keys with
  | nil => rfl
  | cons a t ih =>
    have ha : a.claimed keys = keys := by
      have := h a List.mem_cons_self
      obtain ⟨op, reply⟩ := a
      cases op <;> first | rfl | cases this
    rw [Dialogue.claimed, List.foldl_cons, ha]
    exact ih keys fun b hb => h b (List.mem_cons_of_mem a hb)

namespace Interleaving

variable {s : Setup} {x y : Interleaving}

/-- A task that is about to claim a key holds none. -/
theorem Reachable.held_of_enter (h : Reachable s x) {id : TaskId} {key : String}
    {next : Except Failure Bool → Program Job.Result}
    (hid : x.state? id = some (.ready (.ask (.enter key) next))) :
    (x.dialogue id).held = none := by
  obtain ⟨p, hp, hstate⟩ := state?_eq_some.1 hid
  obtain ⟨-, hrest⟩ := h.follows (Job.program_guarded s) id p hp
  rw [hstate] at hrest
  have hask : p.job.GuardedAsk s (x.dialogue id) (.enter key) := hrest.1
  rw [Job.GuardedAsk] at hask
  split at hask
  · exact hask.1.held
  · cases hask

/-- A task that is about to give up its claim on a key holds that key. -/
theorem Reachable.held_of_leave (h : Reachable s x) {id : TaskId} {key : String}
    {next : Except Failure Unit → Program Job.Result}
    (hid : x.state? id = some (.ready (.ask (.leave key) next))) :
    (x.dialogue id).held = some key := by
  obtain ⟨p, hp, hstate⟩ := state?_eq_some.1 hid
  obtain ⟨-, hrest⟩ := h.follows (Job.program_guarded s) id p hp
  rw [hstate] at hrest
  have hask : p.job.GuardedAsk s (x.dialogue id) (.leave key) := hrest.1
  rw [Job.GuardedAsk] at hask
  split at hask
  · obtain ⟨project, r, rfl, hinside⟩ := hask
    exact hinside.held
  · cases hask

/-- Only activations ask questions about claims. -/
theorem Reachable.activation_of_guard (h : Reachable s x) {id : TaskId} {a : Answer}
    (ha : a ∈ x.dialogue id) (hguard : a.op.isGuard = true) :
    ∃ p options, x.parties[id]? = some p ∧ p.job.activation? = some options ∧
      p.state.residual.Ensures (Activation.GuardedAsk s options)
        (fun t r => Activation.GuardedEnd s options t (Job.Result.activation? r))
        (x.dialogue id) := by
  obtain ⟨p, hp⟩ := h.exists_party (List.ne_nil_of_mem ha)
  obtain ⟨hpast, hrest⟩ := h.follows (Job.program_guarded s) id p hp
  obtain ⟨t, u, htu⟩ := List.append_of_mem ha
  have hask := hpast t a u htu
  cases hjob : p.job.activation? with
  | none =>
    rw [Job.GuardedAsk, hjob] at hask
    rw [hask] at hguard
    cases hguard
  | some options =>
    refine ⟨p, options, hp, hjob, hrest.mono (fun t op hop => ?_) fun t r hr => ?_⟩
    · rwa [Job.GuardedAsk, hjob] at hop
    · rwa [Job.GuardedEnd, hjob] at hr

/-- The claims are what the dialogues say is held, and nothing is held twice. -/
structure Claims (x : Interleaving) : Prop where
  /-- No key is claimed twice. -/
  nodup : x.inFlight.Nodup
  /-- A key is claimed if some task holds it. -/
  mem : ∀ key, key ∈ x.inFlight ↔ ∃ id, (x.dialogue id).held = some key
  /-- No two tasks hold a key. -/
  single : ∀ id id' key, (x.dialogue id).held = some key → (x.dialogue id').held = some key →
    id = id'

/-- Claims change only with the keys that are claimed and held. -/
theorem Claims.congr (h : x.Claims) (hflight : y.inFlight = x.inFlight)
    (hheld : ∀ id, (y.dialogue id).held = (x.dialogue id).held) : y.Claims := by
  refine ⟨?_, fun key => ?_, fun id id' key hid hid' => ?_⟩
  · rw [hflight]
    exact h.nodup
  · rw [hflight, h.mem]
    simp only [hheld]
  · rw [hheld] at hid hid'
    exact h.single id id' key hid hid'

/-- What is held after an answer. -/
theorem held_answer (x : Interleaving) (id i : TaskId) (a : Answer) (p : Program Job.Result) :
    ((x.answer id a p).dialogue i).held =
      if id = i then a.heldAfter (x.dialogue i).held else (x.dialogue i).held := by
  rw [dialogue_answer]
  split
  · rw [Dialogue.held_snoc]
  · rw [List.append_nil]

/-- Answers that are no matter of claims leave the claims alone. -/
theorem Claims.answer (h : x.Claims) {a : Answer} (ha : ∀ held, a.heldAfter held = held)
    (id : TaskId) (p : Program Job.Result) : (x.answer id a p).Claims := by
  refine h.congr (inFlight_answer x id a p) fun i => ?_
  rw [held_answer, ha, ite_self]

/-- A free key is claimed by a task that holds none. -/
theorem Claims.claim (h : x.Claims) {id : TaskId} {key : String}
    (hnone : (x.dialogue id).held = none) (hfree : key ∉ x.inFlight) (p : Program Job.Result) :
    ((x.setInFlight (key :: x.inFlight)).answer id ⟨.enter key, .ok true⟩ p).Claims := by
  have hheld : ∀ i, (((x.setInFlight (key :: x.inFlight)).answer id ⟨.enter key, .ok true⟩
      p).dialogue i).held = if id = i then some key else (x.dialogue i).held := by
    intro i
    rw [held_answer, dialogue_setInFlight]
    rfl
  refine ⟨List.nodup_cons.2 ⟨hfree, h.nodup⟩, fun k => ?_, fun i i' k hi hi' => ?_⟩
  · -- The task held nothing, so no key is lost by its claim.
    simp only [hheld, inFlight_answer, inFlight_setInFlight, List.mem_cons, h.mem]
    constructor
    · rintro (rfl | ⟨i, hi⟩)
      · exact ⟨id, if_pos rfl⟩
      · refine ⟨i, ?_⟩
        rw [if_neg, hi]
        rintro rfl
        rw [hnone] at hi
        cases hi
    · rintro ⟨i, hi⟩
      split at hi
      · exact Or.inl (Option.some.inj hi).symm
      · exact Or.inr ⟨i, hi⟩
  · rw [hheld] at hi hi'
    -- A second holder of the key would have been one before, when the key was free.
    split at hi
    · split at hi'
      · next hid hid' => exact hid.symm.trans hid'
      · obtain rfl := Option.some.inj hi
        exact absurd ((h.mem key).2 ⟨i', hi'⟩) hfree
    · split at hi'
      · obtain rfl := Option.some.inj hi'
        exact absurd ((h.mem key).2 ⟨i, hi⟩) hfree
      · exact h.single i i' k hi hi'

/-- A key is given up by the task that holds it. -/
theorem Claims.release (h : x.Claims) {id : TaskId} {key : String}
    (hsome : (x.dialogue id).held = some key) (p : Program Job.Result) :
    ((x.setInFlight (x.inFlight.erase key)).answer id ⟨.leave key, .ok ()⟩ p).Claims := by
  have hheld : ∀ i, (((x.setInFlight (x.inFlight.erase key)).answer id ⟨.leave key, .ok ()⟩
      p).dialogue i).held = if id = i then none else (x.dialogue i).held := by
    intro i
    rw [held_answer, dialogue_setInFlight]
    rfl
  refine ⟨h.nodup.erase key, fun k => ?_, fun i i' k hi hi' => ?_⟩
  · -- No other task held the key, so it is claimed by nobody afterwards.
    simp only [hheld, inFlight_answer, inFlight_setInFlight, h.nodup.mem_erase_iff, h.mem]
    constructor
    · rintro ⟨hne, i, hi⟩
      refine ⟨i, ?_⟩
      rw [if_neg, hi]
      rintro rfl
      rw [hsome] at hi
      exact hne (Option.some.inj hi).symm
    · rintro ⟨i, hi⟩
      split at hi
      · cases hi
      · next hne =>
        refine ⟨?_, i, hi⟩
        rintro rfl
        exact hne (h.single id i k hsome hi)
  · rw [hheld] at hi hi'
    split at hi
    · cases hi
    · split at hi'
      · cases hi'
      · exact h.single i i' k hi hi'

theorem Claims.step (h : x.Claims) (hx : Reachable s x) (hstep : Step x y) : y.Claims := by
  cases hstep with
  | start job => exact h.congr rfl fun _ => rfl
  | tell _ => exact h.answer (fun _ => rfl) _ _
  | claim hid hfree => exact h.claim (hx.held_of_enter hid) hfree _
  | refuse _ _ => exact h.answer (fun _ => rfl) _ _
  | release hid => exact h.release (hx.held_of_leave hid) _
  | spawn _ => exact Claims.answer (x := x.add _ _) (h.congr rfl fun _ => rfl) (fun _ => rfl) _ _
  | pause _ _ => exact h.congr rfl fun i => by simp
  | @reply id op next hid reply =>
    have hop := Ask.isGuard_of_not_isPrompt (hx.orderly.pauses id op next hid)
    exact h.answer (fun _ => Answer.heldAfter_of_not_isGuard hop _) _ _
  | finish _ => exact h.congr rfl fun _ => rfl

/-- In every interleaving, the claims are what the dialogues say is held. -/
theorem Reachable.claims (h : Reachable s x) : x.Claims := by
  refine h.induction ⟨List.nodup_nil, fun key => ?_, fun id id' key hid => ?_⟩
    fun x y hx ih hstep => ih.step hx hstep
  · simp [dialogue]
  · simp [dialogue] at hid

/-- A task that is an activation reconciles the project with a key: it has claimed the project, and
its dialogue since then is one of the reconciliation. -/
def Reconciling (x : Interleaving) (id : TaskId) (key : String) : Prop :=
  ∃ p options project rest, x.parties[id]? = some p ∧ p.job.activation? = some options ∧
    x.setup.key project = key ∧ Activation.Inside x.setup options project (x.dialogue id) rest

/-- What a task is told to be held is what it reconciles. -/
theorem Reachable.reconciling_iff (h : Reachable s x) {id : TaskId} {key : String} :
    x.Reconciling id key ↔ (x.dialogue id).held = some key := by
  constructor
  · rintro ⟨p, options, project, rest, -, -, rfl, hinside⟩
    exact hinside.held
  · intro hheld
    obtain ⟨a, ha, hguard⟩ : ∃ a ∈ x.dialogue id, a.op.isGuard = true := by
      -- Without questions about claims, nothing would be held.
      by_contra hquiet
      have hnone := Dialogue.held_append [] (x.dialogue id) fun a ha => by
        simpa using fun hguard => hquiet ⟨a, ha, hguard⟩
      rw [List.nil_append, hheld] at hnone
      cases hnone
    obtain ⟨p, options, hp, hjob, hrest⟩ := h.activation_of_guard ha hguard
    cases hstate : p.state.residual with
    | done r =>
      -- Whoever has ended holds nothing.
      rw [hstate, ensures_done] at hrest
      rw [hrest.held] at hheld
      cases hheld
    | ask op next =>
      rw [hstate, ensures_ask] at hrest
      obtain ⟨project, rest, hinside⟩ := hrest.1.inside hheld
      refine ⟨p, options, project, rest, hp, hjob, ?_, ?_⟩
      · rw [h.orderly.setup]
        rw [hinside.held] at hheld
        exact Option.some.inj hheld
      · rw [h.orderly.setup]
        exact hinside

/-- Whoever has claimed a key that is free now has given it up. -/
theorem Reachable.leave_of_claim (h : Reachable s x) {id : TaskId} {key : String}
    (hmem : ⟨.enter key, .ok true⟩ ∈ x.dialogue id) (hfree : key ∉ x.inFlight) :
    ⟨.leave key, .ok ()⟩ ∈ x.dialogue id := by
  obtain ⟨p, options, hp, hjob, hrest⟩ := h.activation_of_guard hmem rfl
  cases hstate : p.state.residual with
  | done r =>
    rw [hstate, ensures_done] at hrest
    exact hrest.leave_of_claim hmem
  | ask op next =>
    rw [hstate, ensures_ask] at hrest
    exact absurd ((h.claims.mem key).2 ⟨id, hrest.1.held_of_claim hmem⟩) hfree

section Refusal

variable {moves : List Move} {id : TaskId} {key : String}

/-- Whoever was refused a project has ended with that. -/
theorem run_refused (hmem : ⟨.enter key, .ok false⟩ ∈ (run s moves).dialogue id) :
    ∃ project, s.key project = key ∧ Activation.Refused s project ((run s moves).dialogue id) ∧
      (run s moves).state? id =
        some (.ended (.ok (.activation (some ⟨.alreadyInFlight, some project, none⟩)))) := by
  have hx := run_reachable s moves
  obtain ⟨p, options, hp, hjob, hrest⟩ := hx.activation_of_guard hmem rfl
  obtain ⟨r, hr⟩ : ∃ r, p.state = .ended r := by
    by_contra hnot
    -- A task that has not ended pauses or has paused last, which is not so after a refusal.
    have hpausing := run_pausing (Job.program_guarded s) hp fun r hr => hnot ⟨r, hr⟩
    simp only [Job.GuardedAsk, hjob] at hpausing
    rcases hpausing with hnil | ⟨op, -, -, hop, hask⟩ | ⟨t, a, hta, ha, hask⟩
    · rw [hnil] at hmem
      cases hmem
    · rw [hask.isPrompt_of_refusal hmem] at hop
      cases hop
    · rw [hta] at hmem
      rcases List.mem_append.1 hmem with hmem | hmem
      · rw [hask.isPrompt_of_refusal hmem] at ha
        cases ha
      · rw [← List.mem_singleton.1 hmem] at ha
        cases ha
  rw [hr, Task.State.residual, ensures_done] at hrest
  obtain ⟨project, hrefused, hresult⟩ := hrest.refused hmem
  refine ⟨project, (hrefused.of_mem_enter hmem).1, hrefused, state?_eq_some.2 ⟨p, hp, ?_⟩⟩
  rw [hr, Job.Result.eq_of_activation? hresult]

/-- Whoever was refused a project has sent nothing but probes. -/
theorem sent_of_run_refused (hmem : ⟨.enter key, .ok false⟩ ∈ (run s moves).dialogue id) :
    ∀ name ∈ (run s moves).sent id, name = Poll.pingRequest := by
  intro name hname
  have hx := run_reachable s moves
  obtain ⟨project, -, ⟨before, after, hdialogue, hbefore, hafter⟩, hended⟩ := run_refused hmem
  have hops : ∀ a ∈ (run s moves).dialogue id,
      a.op.isProbe = true ∨ a.op = .enter (s.key project) := by
    intro a ha
    rw [hdialogue, List.mem_append, List.mem_cons] at ha
    rcases ha with ha | rfl | ha
    · exact Or.inl (hbefore a ha)
    · exact Or.inr rfl
    · exact Or.inl (hafter a ha)
  have hspawns : (run s moves).spawns id = [] := by
    rw [spawns, Dialogue.spawned, List.filterMap_eq_nil_iff]
    intro a ha
    obtain ⟨op, reply⟩ := a
    rcases hops _ ha with hop | hop
    · cases op <;> first | rfl | cases hop
    · cases op <;> first | rfl | cases hop
  -- It has started no task, so all that is attributed to it are its own questions.
  obtain ⟨c, op, hop, hc, hrequest⟩ := mem_sent.1 hname
  obtain rfl := hx.kinship.eq_of_originOf hspawns hc
  rw [hx.recorded c, awaiting_of_state? hended] at hop
  simp only [Task.State.pending, List.append_nil, Dialogue.pauses, List.mem_filter,
    List.mem_map] at hop
  obtain ⟨⟨a, ha, rfl⟩, -⟩ := hop
  cases hcase : a.op with
  | request n params =>
    rw [hcase, Ask.requestName?, Option.some.injEq] at hrequest
    rcases hops a ha with hprobe | hguard
    · rw [hcase, Ask.isProbe, beq_iff_eq] at hprobe
      rw [← hrequest, hprobe]
    · rw [hcase] at hguard
      cases hguard
  | _ =>
    rw [hcase] at hrequest
    cases hrequest

/-- What an answer on the spot does to the claims, and when it is a refusal. -/
theorem promptly_claims {op : Ask} {reply : Except Failure op.Reply}
    (h : x.promptly id op = some (reply, y)) :
    y.inFlight = Answer.claimed x.inFlight ⟨op, reply⟩ ∧
      ∀ key, (⟨op, reply⟩ : Answer) = ⟨.enter key, .ok false⟩ → key ∈ x.inFlight := by
  cases op with
  | emit e =>
    obtain ⟨rfl, rfl⟩ := Prod.mk.inj (Option.some.inj h)
    exact ⟨rfl, fun key hkey => by simp at hkey⟩
  | enter k =>
    simp only [promptly] at h
    split at h
    · next hmem =>
      obtain ⟨rfl, rfl⟩ := Prod.mk.inj (Option.some.inj h)
      refine ⟨rfl, fun key hkey => ?_⟩
      simp only [Answer.mk.injEq, Ask.enter.injEq] at hkey
      rw [← hkey.1]
      simpa using hmem
    · obtain ⟨rfl, rfl⟩ := Prod.mk.inj (Option.some.inj h)
      refine ⟨rfl, fun key hkey => ?_⟩
      simp only [Answer.mk.injEq, Ask.enter.injEq] at hkey
      obtain ⟨rfl, hkey⟩ := hkey
      cases hkey
  | leave k =>
    obtain ⟨rfl, rfl⟩ := Prod.mk.inj (Option.some.inj h)
    exact ⟨rfl, fun key hkey => by simp at hkey⟩
  | spawn name job =>
    obtain ⟨rfl, rfl⟩ := Prod.mk.inj (Option.some.inj h)
    exact ⟨rfl, fun key hkey => by simp at hkey⟩
  | _ => cases h

/-- What a task does to the claims as it goes on shows in its dialogue, and so does what it is
refused. -/
theorem proceed_claims (id : TaskId) (p : Program Job.Result) (x : Interleaving) :
    ∃ new : Dialogue, (x.proceed id p).dialogue id = x.dialogue id ++ new ∧
      (x.proceed id p).inFlight = new.claimed x.inFlight ∧
      ∀ (u v : Dialogue) key, new = u ++ ⟨.enter key, .ok false⟩ :: v →
        key ∈ u.claimed x.inFlight := by
  induction p generalizing x with
  | done r =>
    refine ⟨[], by simp [proceed], rfl, fun u v key h => ?_⟩
    simp at h
  | ask op next ih =>
    rw [proceed]
    split
    · next reply y hy =>
      obtain ⟨hmoments, -, -⟩ := promptly_eq_some hy
      obtain ⟨hflight, hrefused⟩ := promptly_claims hy
      obtain ⟨new, hnew, hclaimed, hrefusals⟩ := ih reply (y.answer id ⟨op, reply⟩ (next reply))
      have hdialogue : y.dialogue id = x.dialogue id := by rw [dialogue, hmoments, dialogue]
      refine ⟨⟨op, reply⟩ :: new, ?_, ?_, fun u v key huv => ?_⟩
      · rw [hnew, dialogue_answer, if_pos rfl, hdialogue, List.append_assoc, List.singleton_append]
      · rw [hclaimed, inFlight_answer, hflight]
        rfl
      · -- A refusal that comes first is the answer on the spot; any other one is among the later
        -- answers.
        cases u with
        | nil =>
          obtain ⟨hfirst, -⟩ := List.cons.inj huv
          exact hrefused key hfirst
        | cons a u =>
          obtain ⟨rfl, hrest⟩ := List.cons.inj huv
          have hkey := hrefusals u v key hrest
          rw [inFlight_answer, hflight] at hkey
          exact hkey
    · refine ⟨[], by simp, rfl, fun u v key h => ?_⟩
      simp at h

/-- A refusal happens while the key is claimed, and it changes no claims. -/
theorem inFlight_of_refused {m : Move}
    (hbefore : ⟨.enter key, .ok false⟩ ∉ (run s moves).dialogue id)
    (hafter : ⟨.enter key, .ok false⟩ ∈ (run s (moves ++ [m])).dialogue id) :
    key ∈ (run s moves).inFlight ∧ (run s (moves ++ [m])).inFlight = (run s moves).inFlight := by
  obtain ⟨project, -, hrefused, -⟩ := run_refused hafter
  have hx := (run_reachable s moves).orderly
  rw [run_append] at hafter hrefused ⊢
  generalize run s moves = x at *
  cases m with
  | start job => exact absurd hafter hbefore
  | reply i replies =>
    -- Tasks do not pause for claims, so the refusal is no reply.
    exfalso
    simp only [move] at hafter
    split at hafter
    · next op next hblocked =>
      rw [dialogue_answer, List.mem_append] at hafter
      refine hafter.elim hbefore fun hmem => ?_
      split at hmem
      · have hop := hx.pauses i op next hblocked
        rw [List.mem_singleton, Answer.mk.injEq] at hmem
        rw [← hmem.1] at hop
        cases hop
      · cases hmem
    · exact hbefore hafter
  | go i =>
    simp only [move] at hafter hrefused ⊢
    split at hafter
    · next p hp =>
      simp only [hp] at hrefused ⊢
      by_cases hi : i = id
      · subst hi
        obtain ⟨new, hnew, hclaimed, hrefusals⟩ := proceed_claims i p x
        rw [hnew] at hafter
        obtain ⟨u, v, rfl⟩ := List.append_of_mem ((List.mem_append.1 hafter).resolve_left hbefore)
        -- The refusal is the only question about claims, so those before and after it change none.
        obtain ⟨hu, hv⟩ := hrefused.not_isGuard (hnew.trans (List.append_assoc _ _ _).symm)
        have hu : ∀ a ∈ u, a.op.isGuard = false := fun a ha => hu a (List.mem_append_right _ ha)
        have hkey := hrefusals u v key rfl
        rw [Dialogue.claimed_of_not_isGuard _ hu] at hkey
        refine ⟨hkey, ?_⟩
        rw [hclaimed, Dialogue.claimed_append, Dialogue.claimed_of_not_isGuard _ hu]
        show Dialogue.claimed x.inFlight v = x.inFlight
        exact Dialogue.claimed_of_not_isGuard _ hv
      · rw [(proceed_of_ne hi p x).1] at hafter
        exact absurd hafter hbefore
    · exact absurd hafter hbefore

end Refusal

/-- Once all activations have ended, nothing is claimed. -/
theorem Reachable.inFlight_eq_nil (h : Reachable s x)
    (hended : ∀ p ∈ x.parties, p.job.isActivation = true → ∃ r, p.state = .ended r) :
    x.inFlight = [] := by
  rw [List.eq_nil_iff_forall_not_mem]
  intro key hkey
  obtain ⟨id, hid⟩ := (h.claims.mem key).1 hkey
  obtain ⟨p, options, project, rest, hp, hjob, -, -⟩ := h.reconciling_iff.2 hid
  have hactivation := Job.isActivation_of_activation? hjob
  obtain ⟨r, hr⟩ := hended p (List.mem_of_getElem? hp) hactivation
  obtain ⟨-, hrest⟩ := h.follows (Job.program_guarded s) id p hp
  rw [hr, Task.State.residual, ensures_done, Job.GuardedEnd, hjob] at hrest
  rw [hrest.held] at hid
  cases hid

/-- The guard of projects, however activations take turns and whatever they are answered. The keys
that are claimed are at all times those of the projects that are being reconciled, and no two
activations reconcile projects with the same key. An activation that finds its key claimed has sent
nothing but probes when it ends for that reason, which it does in the same move, and it leaves the
claims as they are. Once all activations have ended, nothing is claimed. -/
theorem guarded_reconciliation (s : Setup) :
    (∀ x, Reachable s x → x.inFlight.Nodup ∧
      (∀ key, key ∈ x.inFlight ↔ ∃ id, x.Reconciling id key) ∧
      ∀ id id' key, x.Reconciling id key → x.Reconciling id' key → id = id') ∧
    (∀ moves id key, ⟨.enter key, .ok false⟩ ∈ (run s moves).dialogue id →
      (∃ project, s.key project = key ∧ (run s moves).state? id =
        some (.ended (.ok (.activation (some ⟨.alreadyInFlight, some project, none⟩))))) ∧
      ∀ name ∈ (run s moves).sent id, name = Poll.pingRequest) ∧
    (∀ moves m id key, ⟨.enter key, .ok false⟩ ∉ (run s moves).dialogue id →
      ⟨.enter key, .ok false⟩ ∈ (run s (moves ++ [m])).dialogue id →
      key ∈ (run s moves).inFlight ∧
        (run s (moves ++ [m])).inFlight = (run s moves).inFlight) ∧
    ∀ moves, (∀ p ∈ (run s moves).parties, p.job.isActivation = true → ∃ r, p.state = .ended r) →
      (run s moves).inFlight = [] := by
  refine ⟨fun x hx => ⟨hx.claims.nodup, fun key => ?_, fun id id' key hid hid' => ?_⟩,
    fun moves id key hmem => ⟨?_, sent_of_run_refused hmem⟩,
    fun moves m id key hbefore hafter => inFlight_of_refused hbefore hafter,
    fun moves hended => (run_reachable s moves).inFlight_eq_nil hended⟩
  · simp only [hx.reconciling_iff, hx.claims.mem]
  · rw [hx.reconciling_iff] at hid hid'
    exact hx.claims.single id id' key hid hid'
  · obtain ⟨project, hkey, -, hstate⟩ := run_refused hmem
    exact ⟨project, hkey, hstate⟩

section Encounter

/-- The replies to a user in a project at `/p`, from a service that does what it is asked and knows
no project. -/
def obliging : (op : Ask) → Except Failure op.Reply
  | .wait _ => .ok ()
  | .request _ _ => .ok { ok := true }
  | .locate => .ok (some ⟨⟨.root, ["p"]⟩, ⟨.root, ["p", "p.uproject"]⟩⟩)
  | _ => .error .nothingToSave

/-- While one activation awaits the project list, another one gets as far as to find the project. -/
def encounter : List Move :=
  let approach (a : TaskId) : List Move :=
    .start (.activation none) :: (List.replicate 3 [.go a, .reply a obliging]).flatten ++ [.go a]
  approach 0 ++ approach 1

/-- The first activation reconciles the project, and the second one is refused it. -/
theorem encounter_guarded : ∃ key, (run .standard encounter).inFlight = [key] ∧
    (∃ id, (run .standard encounter).Reconciling id key) ∧
    ⟨.enter key, .ok false⟩ ∈ (run .standard encounter).dialogue 1 ∧
    ∃ project, Setup.standard.key project = key ∧ (run .standard encounter).state? 1 =
      some (.ended (.ok (.activation (some ⟨.alreadyInFlight, some project, none⟩)))) := by
  obtain ⟨hclaims, hrefused, -, -⟩ := guarded_reconciliation .standard
  have hflight : (run .standard encounter).inFlight = [PathKey.ofText .sensitive "/p"] := rfl
  have hmem : ⟨.enter (PathKey.ofText .sensitive "/p"), .ok false⟩ ∈
      (run .standard encounter).dialogue 1 := List.mem_of_getElem? (i := 3) rfl
  have hclaimed : PathKey.ofText .sensitive "/p" ∈ (run .standard encounter).inFlight := by
    rw [hflight]
    exact List.mem_cons_self
  obtain ⟨-, hreconciling, -⟩ := hclaims _ (run_reachable .standard encounter)
  exact ⟨_, hflight, (hreconciling _).1 hclaimed, hmem, (hrefused encounter 1 _ hmem).1⟩

end Encounter

end Interleaving

end IndexSync
