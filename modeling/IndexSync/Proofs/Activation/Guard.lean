import IndexSync.Proofs.Activation.Rules
import IndexSync.Proofs.Interleaving.Attribution

/-!
# The guard of projects

While one activation reconciles a project, others leave that project alone. The dialogue of an
activation shows where it stands: it has claimed no project yet (`Outside`), it reconciles one
(`Inside`), it was refused one (`Refused`), or it gave up its claim (`Left`).
-/

namespace IndexSync

open Program

namespace Ask

/-- A question about the claims on projects. -/
def isGuard : Ask → Bool
  | .enter _ => true
  | .leave _ => true
  | _ => false

/-- A question that serves to reach the service and to find the project. -/
def isProbe : Ask → Bool
  | .emit _ => true
  | .wait _ => true
  | .locate => true
  | .request name _ => name == Poll.pingRequest
  | _ => false

/-- Reaching the service takes no claim. -/
theorem isGuard_of_isProbe {op : Ask} (h : op.isProbe = true) : op.isGuard = false := by
  cases op <;> first | rfl | cases h

/-- Questions about claims are answered on the spot. -/
theorem isGuard_of_not_isPrompt {op : Ask} (h : op.isPrompt = false) : op.isGuard = false := by
  cases op <;> first | rfl | cases h

end Ask

/-- The key that a task holds a claim on after an answer. -/
def Answer.heldAfter (held : Option String) : Answer → Option String
  | ⟨.enter key, .ok true⟩ => some key
  | ⟨.leave _, .ok _⟩ => none
  | _ => held

/-- Only questions about claims change what is held. -/
theorem Answer.heldAfter_of_not_isGuard {a : Answer} (h : a.op.isGuard = false)
    (held : Option String) : a.heldAfter held = held := by
  obtain ⟨op, reply⟩ := a
  cases op <;> first | rfl | cases h

namespace Dialogue

/-- The key that a task holds a claim on after a dialogue. -/
def held (t : Dialogue) : Option String := t.foldl (fun held a => a.heldAfter held) none

@[simp]
theorem held_nil : held [] = none := rfl

@[simp]
theorem held_snoc (t : Dialogue) (a : Answer) : held (t ++ [a]) = a.heldAfter (held t) := by
  simp [held]

/-- Without questions about claims, the same is held as before. -/
theorem held_append (t u : Dialogue) (h : ∀ a ∈ u, a.op.isGuard = false) :
    held (t ++ u) = held t := by
  induction u generalizing t with
  | nil => rw [List.append_nil]
  | cons a u ih =>
    have hu : ∀ b ∈ u, b.op.isGuard = false := fun b hb => h b (List.mem_cons_of_mem a hb)
    rw [List.append_cons, ih (t ++ [a]) hu, held_snoc,
      Answer.heldAfter_of_not_isGuard (h a List.mem_cons_self)]

end Dialogue

namespace Activation

variable {s : Setup} {options : Option Options} {project : Project} {t : Dialogue}

/-- Nothing was claimed: the dialogue was about reaching the service and finding the project. -/
def Outside (t : Dialogue) : Prop := ∀ a ∈ t, a.op.isProbe = true

/-- A project was claimed, and `rest` is left of its reconciliation. -/
def Inside (s : Setup) (options : Option Options) (project : Project) (t : Dialogue)
    (rest : Program Result) : Prop :=
  ∃ before inside, t = before ++ ⟨.enter (s.key project), .ok true⟩ :: inside ∧ Outside before ∧
    (reconcile s project options).Leads inside rest

/-- A project was refused because it was claimed. -/
def Refused (s : Setup) (project : Project) (t : Dialogue) : Prop :=
  ∃ before after, t = before ++ ⟨.enter (s.key project), .ok false⟩ :: after ∧ Outside before ∧
    Outside after

/-- A project was claimed and reconciled with some end, and the claim was given up. -/
def Left (s : Setup) (options : Option Options) (project : Project) (t : Dialogue)
    (r : Except Failure Result) : Prop :=
  ∃ u, t = u ++ [⟨.leave (s.key project), .ok ()⟩] ∧ Inside s options project u (.done r)

/-- When an activation asks what. -/
def GuardedAsk (s : Setup) (options : Option Options) (t : Dialogue) : Ask → Prop
  | .enter key => Outside t ∧ ∃ project, key = s.key project
  | .leave key => ∃ project r, key = s.key project ∧ Inside s options project t (.done r)
  | op => (Outside t ∧ op.isProbe = true) ∨
      (∃ project next, Inside s options project t (.ask op next)) ∨
      ∃ project, Refused s project t ∧ op.isPrompt = true

/-- When an activation ends, and with which result. -/
def GuardedEnd (s : Setup) (options : Option Options) (t : Dialogue) (result : Option Result) :
    Prop :=
  (Outside t ∧ ∀ r, result = some r → r = ⟨.exhausted, none, none⟩) ∨
    (∃ project, Refused s project t ∧ result = some ⟨.alreadyInFlight, some project, none⟩) ∨
      ∃ project r, Left s options project t r ∧ result = r.toOption

theorem outside_nil : Outside [] := fun _ h => absurd h (by simp)

/-- An activation may end without a result as long as it has claimed nothing. -/
theorem Outside.noResult (h : Outside t) : GuardedEnd s options t none :=
  Or.inl ⟨h, fun _ hr => by cases hr⟩

theorem Outside.snoc (h : Outside t) {a : Answer} (ha : a.op.isProbe = true) :
    Outside (t ++ [a]) := by
  intro b hb
  rcases List.mem_append.1 hb with hb | hb
  · exact h b hb
  · rw [List.mem_singleton.1 hb]
    exact ha

theorem Outside.not_isGuard (h : Outside t) : ∀ a ∈ t, a.op.isGuard = false :=
  fun a ha => Ask.isGuard_of_isProbe (h a ha)

/-- Reaching the service starts no task. -/
theorem Outside.spawned (h : Outside t) : t.spawned = [] := by
  rw [Dialogue.spawned, List.filterMap_eq_nil_iff]
  intro a ha
  have hop := h a ha
  obtain ⟨op, reply⟩ := a
  cases op <;> first | rfl | cases hop

section Only

variable {C : Ask → Prop}

theorem fetchUpTo_only (hemit : ∀ e, C (.emit e)) (hwait : ∀ ms, C (.wait ms))
    (hlist : C Registry.listing) (interval : Int) (left : Nat) :
    (Registry.fetchUpTo interval left).Only C := by
  induction left with
  | zero => trivial
  | succ left ih =>
    refine Only.bind ?_ fun records? => ?_
    · refine Only.bind (only_call.2 hlist) fun response => ?_
      split
      · trivial
      · exact Only.bind (only_call.2 (hemit _)) fun _ => trivial
      · exact Only.bind (only_call.2 (hemit _)) fun _ => trivial
    · split
      · trivial
      · split
        · trivial
        · exact Only.bind (only_call.2 (hwait _)) fun _ => ih

theorem dispatch_only (hemit : ∀ e, C (.emit e)) (hspawn : ∀ name job, C (.spawn name job))
    (d : Decision) (project : Project) (options : Option Options) :
    (Dispatch.dispatch d project options).Only C := by
  cases d with
  | synced => exact Only.bind (only_call.2 (hemit _)) fun _ => trivial
  | refreshOnly =>
    exact Only.bind (only_call.2 (hemit _)) fun _ =>
      Only.bind (only_call.2 (hspawn _ _)) fun _ => trivial
  | fullRefreshAndWatch =>
    exact Only.bind (only_call.2 (hemit _)) fun _ => Only.bind (only_call.2 (hspawn _ _)) fun _ =>
      Only.bind (only_call.2 (hspawn _ _)) fun _ => trivial
  | registerFirst =>
    exact Only.bind (only_call.2 (hemit _)) fun _ =>
      Only.bind (only_call.2 (hspawn _ _)) fun _ => trivial

theorem judge_only
    (hassess : ∀ stored, C (.assess project.root (s.indexFile project.root) stored))
    (records : List Record) : (judge s project records).Only C := by
  rw [judge]
  split
  · trivial
  · exact Only.bind (only_call.2 (hassess _)) fun _ => trivial

/-- A reconciliation logs, waits, asks for the project list, looks at the index of the project in
its file, and starts tasks. -/
theorem reconcile_only (hemit : ∀ e, C (.emit e)) (hwait : ∀ ms, C (.wait ms))
    (hspawn : ∀ name job, C (.spawn name job)) (hlist : C Registry.listing)
    (hassess : ∀ stored, C (.assess project.root (s.indexFile project.root) stored)) :
    (reconcile s project options).Only C := by
  refine Only.bind ?_ fun records? => ?_
  · refine Only.bind (fetchUpTo_only hemit hwait hlist _ _) fun records? => ?_
    split
    · trivial
    · exact Only.bind (only_call.2 (hemit _)) fun _ => trivial
  · split
    · trivial
    · exact Only.bind (judge_only hassess _) fun d =>
        Only.bind (dispatch_only hemit hspawn _ _ _) fun _ => trivial

end Only

/-- A question that takes no claim. -/
abbrev NoClaim (op : Ask) : Prop := op.isGuard = false

/-- A reconciliation takes no claim and gives none up. -/
theorem reconcile_noClaim (s : Setup) (project : Project) (options : Option Options) :
    (reconcile s project options).Only NoClaim :=
  reconcile_only (fun _ => rfl) (fun _ => rfl) (fun _ _ => rfl) rfl fun _ => rfl

/-- When an activation asks something that is no matter of claims. -/
theorem guardedAsk_of_not_isGuard {op : Ask} (hop : op.isGuard = false) :
    GuardedAsk s options t op ↔
      (Outside t ∧ op.isProbe = true) ∨
        (∃ project next, Inside s options project t (.ask op next)) ∨
        ∃ project, Refused s project t ∧ op.isPrompt = true := by
  cases op <;> first | exact Iff.rfl | cases hop

theorem Outside.guardedAsk (h : Outside t) {op : Ask} (hop : op.isProbe = true) :
    GuardedAsk s options t op :=
  (guardedAsk_of_not_isGuard (Ask.isGuard_of_isProbe hop)).2 (Or.inl ⟨h, hop⟩)

/-- A project is claimed, reconciled and given up, or it is refused. -/
theorem guarded_ensures (h : Outside t) :
    (guarded s project options).Ensures (GuardedAsk s options)
      (fun t r => GuardedEnd s options t r.toOption) t := by
  refine Claiming.guarded
    { enter := ⟨h, project, rfl⟩
      granted := ?_
      refused := fun e => ?_ }
  · -- All dialogues of the reconciliation are inside, and none of its questions is about claims.
    refine ((ensures_leads _ _).and ((reconcile_noClaim s project options).ensures _)).mono ?_ ?_
    · rintro _ op ⟨⟨u, next, rfl, hu⟩, hop⟩
      rw [guardedAsk_of_not_isGuard hop]
      exact Or.inr (Or.inl ⟨project, _, t, u, by simp, h, hu⟩)
    · rintro _ r ⟨⟨u, rfl, hu⟩, -⟩
      have hinside : Inside s options project
          (t ++ [⟨.enter (s.key project), .ok true⟩] ++ u) (.done r) := ⟨t, u, by simp, h, hu⟩
      refine ⟨⟨project, r, rfl, hinside⟩, ?_⟩
      exact Or.inr (Or.inr ⟨project, r, ⟨_, rfl, hinside⟩, rfl⟩)
  · -- The refusal is logged, and that is all that follows it.
    refine ⟨Or.inr (Or.inr ⟨project, ⟨t, [], by simp, h, outside_nil⟩, rfl⟩), ?_⟩
    refine Or.inr (Or.inl ⟨project, ⟨t, [_], List.append_assoc _ _ _, h, ?_⟩, rfl⟩)
    intro a ha
    rw [List.mem_singleton.1 ha]
    rfl

theorem resolve_ensures (h : Outside t) (n : Nat) :
    (resolve s options).Ensures (GuardedAsk s options)
      (Found (fun t r => GuardedEnd s options t r.toOption) (fun _ => Outside) n) t := by
  -- Looking for the project, the activation is outside, whatever it finds.
  have hfound (found : Except Failure (Option Project)) : Outside (t ++ [⟨.locate, found⟩]) :=
    h.snoc rfl
  exact Resolving.resolve
    { locate := h.guardedAsk rfl
      lost := fun _ => (hfound _).noResult
      early := fun _ => ⟨(hfound _).guardedAsk rfl, (hfound _).snoc rfl⟩
      found := fun _ => guarded_ensures (hfound _) }

theorem run_ensures : (run s options).Ensures (GuardedAsk s options)
    (fun t r => GuardedEnd s options t r.toOption) [] := by
  refine Polling.run (I := fun _ => Outside) ⟨?_, ?_, ?_, ?_, ?_, ?_, ?_, ?_, ?_⟩
  · -- The settings of polling are refused.
    exact fun e _ => outside_nil.noResult
  · -- The service is given time.
    refine ⟨outside_nil.guardedAsk rfl, fun reply => ?_⟩
    have hwait : Outside [⟨.wait s.config.polling.warmup, reply⟩] := outside_nil.snoc rfl
    cases reply with
    | error e => exact hwait.noResult
    | ok _ => exact hwait
  · -- Something is logged.
    exact fun n t e ht => ⟨ht.guardedAsk rfl, ht.snoc rfl⟩
  · -- The next probe is waited for.
    intro n t ms _ _ ht
    refine ⟨ht.guardedAsk rfl, fun reply => ?_⟩
    cases reply with
    | error e => exact (ht.snoc rfl).noResult
    | ok _ => exact ht.snoc rfl
  · -- The service is probed: the probe fails, or the service is not reached, or it is.
    exact fun n t _ ht => ht.guardedAsk (by simp [Ask.isProbe])
  · exact fun n t e _ ht => (ht.snoc (by simp [Ask.isProbe])).noResult
  · exact fun n t r _ ht _ => ht.snoc (by simp [Ask.isProbe])
  · exact fun n t r _ ht _ => resolve_ensures (ht.snoc (by simp [Ask.isProbe])) (n + 1)
  · -- The budget is spent.
    exact fun t ht => Or.inl ⟨ht, fun r hr => (Option.some.inj hr).symm⟩

/-- An activation that has claimed nothing holds nothing. -/
theorem Outside.held (h : Outside t) : t.held = none := by
  have := Dialogue.held_append [] t h.not_isGuard
  simpa using this

/-- An activation that reconciles a project holds its key. -/
theorem Inside.held {rest : Program Result} (h : Inside s options project t rest) :
    t.held = some (s.key project) := by
  obtain ⟨before, inside, rfl, -, hinside⟩ := h
  rw [List.append_cons, Dialogue.held_append _ inside (hinside.only (reconcile_noClaim _ _ _)),
    Dialogue.held_snoc]
  rfl

/-- An activation that was refused a project holds nothing. -/
theorem Refused.held (h : Refused s project t) : t.held = none := by
  obtain ⟨before, after, rfl, hbefore, hafter⟩ := h
  rw [List.append_cons, Dialogue.held_append _ after hafter.not_isGuard, Dialogue.held_snoc]
  exact hbefore.held

/-- An activation that gave up its claim holds nothing. -/
theorem Left.held {r : Except Failure Result} (h : Left s options project t r) :
    t.held = none := by
  obtain ⟨u, rfl, -⟩ := h
  rw [Dialogue.held_snoc]
  rfl

/-- An activation that has ended holds nothing. -/
theorem GuardedEnd.held {result : Option Result} (h : GuardedEnd s options t result) :
    t.held = none := by
  rcases h with ⟨h, -⟩ | ⟨project, h, -⟩ | ⟨project, r, h, -⟩
  · exact h.held
  · exact h.held
  · exact h.held

/-- An activation that asks something has claimed nothing so far, or it reconciles a project, or it
was refused one and pauses no more. -/
theorem GuardedAsk.stage {op : Ask} (h : GuardedAsk s options t op) :
    Outside t ∨ (∃ project rest, Inside s options project t rest) ∨
      ∃ project, Refused s project t ∧ op.isPrompt = true := by
  cases hop : op.isGuard with
  | true =>
    cases op with
    | enter k => exact Or.inl h.1
    | leave k =>
      obtain ⟨project, r, -, hinside⟩ := h
      exact Or.inr (Or.inl ⟨project, _, hinside⟩)
    | _ => cases hop
  | false =>
    rcases (guardedAsk_of_not_isGuard hop).1 h with
      ⟨hout, -⟩ | ⟨project, next, hinside⟩ | hrefused
    · exact Or.inl hout
    · exact Or.inr (Or.inl ⟨project, _, hinside⟩)
    · exact Or.inr (Or.inr hrefused)

/-- An activation that asks something while it holds a key reconciles a project. -/
theorem GuardedAsk.inside {op : Ask} (h : GuardedAsk s options t op) {key : String}
    (hkey : t.held = some key) : ∃ project rest, Inside s options project t rest := by
  rcases h.stage with hout | hinside | ⟨project, hrefused, -⟩
  · rw [hout.held] at hkey
    cases hkey
  · exact hinside
  · rw [hrefused.held] at hkey
    cases hkey

section Refusal

variable {key : String}

theorem Outside.not_mem_enter (h : Outside t) {free : Bool} :
    (⟨.enter key, .ok free⟩ : Answer) ∉ t := fun hmem => by cases h _ hmem

/-- Where one claim was asked for, and nothing else about claims, what was said about a claim was
said about that one. -/
theorem eq_of_mem_enter {before after : Dialogue} (hbefore : ∀ a ∈ before, a.op.isGuard = false)
    (hafter : ∀ a ∈ after, a.op.isGuard = false) {key' : String} {free free' : Bool}
    (hmem : (⟨.enter key, .ok free⟩ : Answer) ∈ before ++ ⟨.enter key', .ok free'⟩ :: after) :
    key' = key ∧ free = free' := by
  rcases List.mem_append.1 hmem with hmem | hmem
  · cases hbefore _ hmem
  · rcases List.mem_cons.1 hmem with heq | hmem
    · simp only [Answer.mk.injEq, Ask.enter.injEq] at heq
      obtain ⟨rfl, heq⟩ := heq
      exact ⟨rfl, Except.ok.inj (eq_of_heq heq)⟩
    · cases hafter _ hmem

/-- The project that is reconciled is the only one that was asked for. -/
theorem Inside.of_mem_enter {rest : Program Result} (h : Inside s options project t rest)
    {free : Bool} (hmem : (⟨.enter key, .ok free⟩ : Answer) ∈ t) :
    s.key project = key ∧ free = true := by
  obtain ⟨before, inside, rfl, hbefore, hinside⟩ := h
  exact eq_of_mem_enter hbefore.not_isGuard (hinside.only (reconcile_noClaim _ _ _)) hmem

/-- The project that was refused is the only one that was asked for. -/
theorem Refused.of_mem_enter (h : Refused s project t) {free : Bool}
    (hmem : (⟨.enter key, .ok free⟩ : Answer) ∈ t) : s.key project = key ∧ free = false := by
  obtain ⟨before, after, rfl, hbefore, hafter⟩ := h
  exact eq_of_mem_enter hbefore.not_isGuard hafter.not_isGuard hmem

/-- The project that was claimed and given up is the only one that was asked for. -/
theorem Left.of_mem_enter {r : Except Failure Result} (h : Left s options project t r)
    {free : Bool} (hmem : (⟨.enter key, .ok free⟩ : Answer) ∈ t) :
    s.key project = key ∧ free = true := by
  obtain ⟨u, rfl, hu⟩ := h
  rcases List.mem_append.1 hmem with hmem | hmem
  · exact hu.of_mem_enter hmem
  · cases List.mem_singleton.1 hmem

/-- The refusal is the only question about claims. -/
theorem Refused.not_isGuard (h : Refused s project t) {u v : Dialogue}
    (htu : t = u ++ ⟨.enter key, .ok false⟩ :: v) :
    (∀ a ∈ u, a.op.isGuard = false) ∧ ∀ a ∈ v, a.op.isGuard = false := by
  have hnone : ∀ w : Dialogue,
      w.countP (fun a => a.op.isGuard) = 0 ↔ ∀ a ∈ w, a.op.isGuard = false := by
    simp [List.countP_eq_zero]
  -- There is one question about claims in all, which leaves none for the rest of the dialogue.
  have hone : t.countP (fun a => a.op.isGuard) = 1 := by
    obtain ⟨before, after, rfl, hbefore, hafter⟩ := h
    rw [List.countP_append, List.countP_cons_of_pos rfl, (hnone before).2 hbefore.not_isGuard,
      (hnone after).2 hafter.not_isGuard]
  rw [htu, List.countP_append, List.countP_cons_of_pos rfl] at hone
  exact ⟨(hnone u).1 (by omega), (hnone v).1 (by omega)⟩

/-- An activation that was refused a project pauses no more. -/
theorem GuardedAsk.isPrompt_of_refusal {op : Ask} (h : GuardedAsk s options t op)
    (hmem : (⟨.enter key, .ok false⟩ : Answer) ∈ t) : op.isPrompt = true := by
  rcases h.stage with hout | ⟨_, _, hinside⟩ | ⟨_, -, hprompt⟩
  · exact absurd hmem hout.not_mem_enter
  · cases (hinside.of_mem_enter hmem).2
  · exact hprompt

/-- An activation that was refused a project ends with that. -/
theorem GuardedEnd.refused {result : Option Result} (h : GuardedEnd s options t result)
    (hmem : (⟨.enter key, .ok false⟩ : Answer) ∈ t) :
    ∃ project, Refused s project t ∧ result = some ⟨.alreadyInFlight, some project, none⟩ := by
  rcases h with ⟨hout, -⟩ | hrefused | ⟨project, r, hleft, -⟩
  · exact absurd hmem hout.not_mem_enter
  · exact hrefused
  · cases (hleft.of_mem_enter hmem).2

/-- An activation that has claimed a key and still asks something holds the key. -/
theorem GuardedAsk.held_of_claim {op : Ask} (h : GuardedAsk s options t op)
    (hmem : (⟨.enter key, .ok true⟩ : Answer) ∈ t) : t.held = some key := by
  rcases h.stage with hout | ⟨_, _, hinside⟩ | ⟨_, hrefused, -⟩
  · exact absurd hmem hout.not_mem_enter
  · rw [hinside.held, (hinside.of_mem_enter hmem).1]
  · cases (hrefused.of_mem_enter hmem).2

/-- An activation that has claimed a key and has ended gave up its claim. -/
theorem GuardedEnd.leave_of_claim {result : Option Result} (h : GuardedEnd s options t result)
    (hmem : (⟨.enter key, .ok true⟩ : Answer) ∈ t) : (⟨.leave key, .ok ()⟩ : Answer) ∈ t := by
  rcases h with ⟨hout, -⟩ | ⟨_, hrefused, -⟩ | ⟨project, r, hleft, -⟩
  · exact absurd hmem hout.not_mem_enter
  · cases (hrefused.of_mem_enter hmem).2
  · obtain ⟨hkey, -⟩ := hleft.of_mem_enter hmem
    obtain ⟨u, rfl, -⟩ := hleft
    rw [← hkey]
    exact List.mem_append_right u List.mem_cons_self

end Refusal

end Activation

end IndexSync
