import IndexSync.Proofs.Interleaving.Basic

/-!
# Attribution

Tasks start tasks. What a task does is attributed to the activation at whose request it was started,
directly or not.

* `Interleaving.spawns x id` — the tasks that a task has started, in order;
* `Interleaving.Reachable.kinship` — a task that is not attributed to itself was started by an
  earlier task that is attributed alike, and no task is started twice;
* `Interleaving.asked x id` — the questions at which a task has paused, in order: those it was
  answered and the one it pauses at (`Reachable.recorded`);
* `Interleaving.sent x id` — the names of the requests that are attributed to an activation.
-/

namespace IndexSync

/-- The question at which a task paused at a moment. -/
def Moment.askedBy? (id : TaskId) : Moment → Option Ask
  | .asked task op => if task = id then some op else none
  | .answered _ _ => none

/-- The question that a task pauses at. -/
def Task.State.pending : Task.State → List Ask
  | .blocked op _ => [op]
  | _ => []

namespace Interleaving

/-- The tasks that a task has started, in order. -/
def spawns (x : Interleaving) (id : TaskId) : List (TaskId × Job) :=
  (x.dialogue id).spawned

/-- The job of a task and the activation it is attributed to. -/
def kin? (x : Interleaving) (id : TaskId) : Option (Job × TaskId) :=
  x.parties[id]?.map fun p => (p.job, p.origin)

/-- The questions at which a task has paused, in order. -/
def asked (x : Interleaving) (id : TaskId) : List Ask := x.moments.filterMap (·.askedBy? id)

/-- The question that a task pauses at, if it does. -/
def awaiting (x : Interleaving) (id : TaskId) : List Ask :=
  ((x.state? id).map Task.State.pending).getD []

/-- The name of the request that was sent at a moment and is attributed to an activation. -/
def sentAt? (x : Interleaving) (id : TaskId) : Moment → Option String
  | .asked task op => if x.originOf task = id then op.requestName? else none
  | .answered _ _ => none

/-- The names of the requests that are attributed to an activation, in the order in which they were
sent. -/
def sent (x : Interleaving) (id : TaskId) : List String := x.moments.filterMap (x.sentAt? id)

theorem mem_asked {x : Interleaving} {id : TaskId} {op : Ask} :
    op ∈ x.asked id ↔ .asked id op ∈ x.moments := by
  rw [asked, List.mem_filterMap]
  constructor
  · rintro ⟨m, hm, hop⟩
    cases m with
    | answered task answer => cases hop
    | asked task op' =>
      rw [Moment.askedBy?, Option.ite_none_right_eq_some] at hop
      obtain ⟨rfl, hop⟩ := hop
      obtain rfl := Option.some.inj hop
      exact hm
  · exact fun hm => ⟨_, hm, if_pos rfl⟩

/-- A request that is attributed to an activation was sent by some task on its behalf. -/
theorem mem_sent {x : Interleaving} {id : TaskId} {name : String} :
    name ∈ x.sent id ↔
      ∃ c op, op ∈ x.asked c ∧ x.originOf c = id ∧ op.requestName? = some name := by
  simp only [sent, mem_asked, List.mem_filterMap]
  constructor
  · rintro ⟨m, hm, hname⟩
    cases m with
    | answered task answer => cases hname
    | asked c op =>
      rw [sentAt?, Option.ite_none_right_eq_some] at hname
      exact ⟨c, op, hm, hname⟩
  · rintro ⟨c, op, hm, hc, hname⟩
    refine ⟨_, hm, ?_⟩
    rw [sentAt?, if_pos hc, hname]

section Effects

variable (x : Interleaving) (id i : TaskId)

@[simp]
theorem spawns_setState (state : Task.State) : (x.setState id state).spawns i = x.spawns i := rfl

@[simp]
theorem spawns_setInFlight (keys : List String) : (x.setInFlight keys).spawns i = x.spawns i := rfl

@[simp]
theorem spawns_add (job : Job) (origin : TaskId) : (x.add job origin).spawns i = x.spawns i := rfl

@[simp]
theorem spawns_note_asked (op : Ask) : (x.note (.asked id op)).spawns i = x.spawns i := by
  simp [spawns]

@[simp]
theorem spawns_answer (a : Answer) (p : Program Job.Result) :
    (x.answer id a p).spawns i = x.spawns i ++ if id = i then a.spawned?.toList else [] := by
  by_cases h : id = i
  · rw [spawns, dialogue_answer, if_pos h, if_pos h, Dialogue.spawned_append]
    simp [spawns]
  · simp [spawns, h]

@[simp]
theorem asked_setState (state : Task.State) : (x.setState id state).asked i = x.asked i := rfl

@[simp]
theorem asked_setInFlight (keys : List String) : (x.setInFlight keys).asked i = x.asked i := rfl

@[simp]
theorem asked_add (job : Job) (origin : TaskId) : (x.add job origin).asked i = x.asked i := rfl

@[simp]
theorem asked_note_asked (op : Ask) :
    (x.note (.asked id op)).asked i = x.asked i ++ if id = i then [op] else [] := by
  by_cases h : id = i <;> simp [asked, Moment.askedBy?, h]

@[simp]
theorem asked_answer (a : Answer) (p : Program Job.Result) :
    (x.answer id a p).asked i = x.asked i := by
  simp [asked, Moment.askedBy?]

@[simp]
theorem awaiting_setInFlight (keys : List String) :
    (x.setInFlight keys).awaiting i = x.awaiting i := rfl

@[simp]
theorem awaiting_note (m : Moment) : (x.note m).awaiting i = x.awaiting i := rfl

@[simp]
theorem kin?_setState (state : Task.State) : (x.setState id state).kin? i = x.kin? i := by
  rw [kin?, parties_setState]
  split
  · rw [Option.map_map]
    rfl
  · rfl

@[simp]
theorem kin?_setInFlight (keys : List String) : (x.setInFlight keys).kin? i = x.kin? i := rfl

@[simp]
theorem kin?_note (m : Moment) : (x.note m).kin? i = x.kin? i := rfl

@[simp]
theorem kin?_answer (a : Answer) (p : Program Job.Result) :
    (x.answer id a p).kin? i = x.kin? i := by
  rw [answer, kin?_note, kin?_setState]

theorem kin?_add_of_lt {i : Nat} (job : Job) (origin : TaskId) (h : i < x.parties.length) :
    (x.add job origin).kin? i = x.kin? i := by
  rw [kin?, parties_add_of_lt x h, kin?]

theorem kin?_add_self (job : Job) (origin : TaskId) :
    (x.add job origin).kin? x.parties.length =
      some (job, if job.isActivation then x.parties.length else origin) := by
  rw [kin?, parties_add_self]
  rfl

/-- The attribution of a task can be read off its kin. -/
theorem originOf_eq : x.originOf i = ((x.kin? i).map Prod.snd).getD i := by
  rw [originOf, kin?, Option.map_map]
  rfl

@[simp]
theorem originOf_answer (a : Answer) (p : Program Job.Result) :
    (x.answer id a p).originOf i = x.originOf i := by
  rw [originOf_eq, kin?_answer, ← originOf_eq]

end Effects

section Kin

variable {x : Interleaving} {i : TaskId} {p : Party}

/-- A task that takes part has kin. -/
theorem kin?_of_party (hp : x.parties[i]? = some p) : x.kin? i = some (p.job, p.origin) := by
  rw [kin?, hp]
  rfl

/-- The kin of a task that takes part and is attributed to an activation. -/
theorem kin?_of_originOf (hp : x.parties[i]? = some p) {a : TaskId} (horigin : x.originOf i = a) :
    x.kin? i = some (p.job, a) := by
  rw [originOf, hp] at horigin
  rw [kin?_of_party hp]
  exact congrArg some (Prod.ext rfl horigin)

/-- A task that has kin takes part. -/
theorem exists_party_of_kin? {job : Job} {origin : TaskId} (h : x.kin? i = some (job, origin)) :
    ∃ p, x.parties[i]? = some p ∧ p.job = job ∧ p.origin = origin := by
  rw [kin?, Option.map_eq_some_iff] at h
  obtain ⟨p, hp, hsame⟩ := h
  exact ⟨p, hp, Prod.mk.inj hsame⟩

theorem lt_length_of_kin? (x : Interleaving) {i : Nat} {k : Job × TaskId} (h : x.kin? i = some k) :
    i < x.parties.length := by
  obtain ⟨p, hp, -⟩ := exists_party_of_kin? h
  exact (List.getElem?_eq_some_iff.1 hp).1

end Kin

/-- How tasks are related to those that started them. -/
structure Kinship (x : Interleaving) : Prop where
  /-- Tasks that were started take part, and are attributed as the task that started them unless
  they are activations. -/
  started : ∀ (b c : Nat) (job : Job), (c, job) ∈ x.spawns b →
    b < c ∧ x.kin? c = some (job, if job.isActivation then c else x.originOf b)
  /-- A task that is not attributed to itself was started by a task that is attributed alike. -/
  parent : ∀ (c o : Nat) (job : Job), x.kin? c = some (job, o) →
    o = c ∨ ∃ b, (c, job) ∈ x.spawns b ∧ o = x.originOf b
  /-- No task is started by two. -/
  single : ∀ (b b' c : Nat) (job job' : Job), (c, job) ∈ x.spawns b → (c, job') ∈ x.spawns b' →
    b = b'
  /-- No task is started twice by one. -/
  nodup : ∀ b, ((x.spawns b).map Prod.fst).Nodup

/-- A task that was started takes part, with the job that it was started for. -/
theorem Kinship.exists_party {x : Interleaving} (h : x.Kinship) {b c : Nat} {job : Job}
    (hc : (c, job) ∈ x.spawns b) : ∃ p, x.parties[c]? = some p ∧ p.job = job := by
  obtain ⟨-, hkin⟩ := h.started b c job hc
  obtain ⟨p, hp, hjob, -⟩ := exists_party_of_kin? hkin
  exact ⟨p, hp, hjob⟩

/-- An activation is attributed to itself. -/
theorem Kinship.originOf_activation {x : Interleaving} (h : x.Kinship) {a : Nat} {p : Party}
    (hp : x.parties[a]? = some p) (hjob : p.job.isActivation = true) : x.originOf a = a := by
  have hkin := kin?_of_party hp
  rw [originOf_eq, hkin]
  rcases h.parent a p.origin p.job hkin with heq | ⟨b, hb, -⟩
  · exact heq
  · obtain ⟨-, hstarted⟩ := h.started b a p.job hb
    rw [hkin, if_pos hjob, Option.some.injEq, Prod.mk.injEq] at hstarted
    exact hstarted.2

/-- Kinship is a matter of kin and of what was started. -/
theorem Kinship.congr {x y : Interleaving} (h : x.Kinship) (hkin : ∀ i, y.kin? i = x.kin? i)
    (hspawns : ∀ i, y.spawns i = x.spawns i) : y.Kinship := by
  have horigin : ∀ i, y.originOf i = x.originOf i := by
    intro i
    rw [originOf_eq, originOf_eq, hkin]
  exact {
    started := fun b c job hc => by
      rw [hspawns] at hc
      rw [hkin, horigin]
      exact h.started b c job hc
    parent := fun c o job hc => by
      rw [hkin] at hc
      simp only [hspawns, horigin]
      exact h.parent c o job hc
    single := fun b b' c job job' hc hc' => by
      rw [hspawns] at hc hc'
      exact h.single b b' c job job' hc hc'
    nodup := fun b => by
      rw [hspawns]
      exact h.nodup b }

/-- The attribution of a task that takes part does not change when one is added. -/
theorem originOf_add_of_lt (x : Interleaving) {i : Nat} (job : Job) (origin : TaskId)
    (h : i < x.parties.length) : (x.add job origin).originOf i = x.originOf i := by
  rw [originOf_eq, originOf_eq, kin?_add_of_lt x job origin h]

/-- What is known of the tasks that were started before does not change when one is added. -/
theorem Kinship.started_add {x : Interleaving} (h : x.Kinship) {b c : Nat} {job : Job}
    (hc : (c, job) ∈ x.spawns b) (new : Job) (origin : TaskId) :
    b < c ∧ (x.add new origin).kin? c =
      some (job, if job.isActivation then c else (x.add new origin).originOf b) := by
  obtain ⟨hlt, hkin⟩ := h.started b c job hc
  have hc' := lt_length_of_kin? x hkin
  refine ⟨hlt, ?_⟩
  rw [kin?_add_of_lt x new origin hc', originOf_add_of_lt x new origin (Nat.lt_trans hlt hc'), hkin]

/-- A task that is not attributed to itself was started by one that is attributed alike also once a
task is added, unless it is the one that was added. -/
theorem Kinship.parent_add {x : Interleaving} (h : x.Kinship) {c o : Nat} {job new : Job}
    {origin : TaskId} (hc : (x.add new origin).kin? c = some (job, o)) :
    (o = c ∨ ∃ b, (c, job) ∈ x.spawns b ∧ o = (x.add new origin).originOf b) ∨
      c = x.parties.length ∧ job = new ∧ o = if new.isActivation then c else origin := by
  rcases Nat.lt_or_ge c x.parties.length with hlt | hge
  · rw [kin?_add_of_lt x _ _ hlt] at hc
    refine Or.inl ((h.parent c o job hc).imp_right ?_)
    rintro ⟨b, hb, ho⟩
    obtain ⟨hbc, -⟩ := h.started b c job hb
    refine ⟨b, hb, ?_⟩
    rw [ho, originOf_add_of_lt x _ _ (Nat.lt_trans hbc hlt)]
  · obtain rfl : c = x.parties.length := by
      have hle := lt_length_of_kin? _ hc
      rw [length_parties_add] at hle
      omega
    rw [kin?_add_self, Option.some.injEq, Prod.mk.injEq] at hc
    exact Or.inr ⟨rfl, hc.1.symm, hc.2.symm⟩

theorem Kinship.start {x : Interleaving} (h : x.Kinship) (job : Job) :
    (x.add job x.parties.length).Kinship where
  started b c job' hc := h.started_add hc _ _
  parent c o job' hc := by
    rcases h.parent_add hc with hold | ⟨rfl, -, ho⟩
    · exact hold
    · rw [ite_self] at ho
      exact Or.inl ho
  single := h.single
  nodup := h.nodup

/-- No task was started under the next number. -/
theorem Kinship.fresh {x : Interleaving} (h : x.Kinship) (b : Nat) (job : Job) :
    (x.parties.length, job) ∉ x.spawns b := by
  intro hc
  obtain ⟨-, hkin⟩ := h.started b _ job hc
  exact absurd (lt_length_of_kin? x hkin) (Nat.lt_irrefl _)

/-- A task that was started once a task starts another was started before, or it is the new one. -/
theorem mem_spawns_spawn {x : Interleaving} {id b c : Nat} {name : String} {job job' : Job}
    {p : Program Job.Result}
    (hc : (c, job') ∈ ((x.add job (x.originOf id)).answer id
      ⟨.spawn name job, .ok x.parties.length⟩ p).spawns b) :
    (c, job') ∈ x.spawns b ∨ id = b ∧ c = x.parties.length ∧ job' = job := by
  rw [spawns_answer, spawns_add, List.mem_append] at hc
  refine hc.imp_right fun hc => ?_
  split at hc
  · next hb =>
    simp only [Answer.spawned?, Option.toList_some, List.mem_singleton, Prod.mk.injEq] at hc
    exact ⟨hb, hc⟩
  · cases hc

/-- A task starts another: the new one has the next number, which no task was started under. -/
theorem Kinship.spawn {x : Interleaving} (h : x.Kinship) {id : Nat}
    (hid : id < x.parties.length) (name : String) (job : Job) (p : Program Job.Result) :
    ((x.add job (x.originOf id)).answer id ⟨.spawn name job, .ok x.parties.length⟩ p).Kinship where
  started b c job' hc := by
    rw [kin?_answer, originOf_answer]
    rcases mem_spawns_spawn hc with hold | ⟨rfl, rfl, rfl⟩
    · exact h.started_add hold _ _
    · rw [kin?_add_self, originOf_add_of_lt x _ _ hid]
      exact ⟨hid, rfl⟩
  parent c o job' hc := by
    rw [kin?_answer] at hc
    simp only [spawns_answer, spawns_add, originOf_answer]
    rcases h.parent_add hc with (heq | ⟨b, hb, ho⟩) | ⟨rfl, rfl, ho⟩
    · exact Or.inl heq
    · exact Or.inr ⟨b, List.mem_append_left _ hb, ho⟩
    · -- The new task is attributed as the one that starts it, unless it is an activation.
      split at ho
      · exact Or.inl ho
      · refine Or.inr ⟨id, ?_, ?_⟩
        · simp [Answer.spawned?]
        · rw [originOf_add_of_lt x _ _ hid, ho]
  single b b' c j j' hc hc' := by
    -- Two tasks cannot both have started it: its number was free before.
    rcases mem_spawns_spawn hc with hold | ⟨rfl, rfl, -⟩
    · rcases mem_spawns_spawn hc' with hold' | ⟨-, rfl, -⟩
      · exact h.single b b' c j j' hold hold'
      · exact absurd hold (h.fresh b j)
    · rcases mem_spawns_spawn hc' with hold' | ⟨rfl, -, -⟩
      · exact absurd hold' (h.fresh b' j')
      · rfl
  nodup b := by
    rw [spawns_answer, spawns_add, List.map_append]
    refine List.nodup_append.2 ⟨h.nodup b, ?_, ?_⟩
    · split <;> simp [Answer.spawned?]
    · rintro c hc c' hc' rfl
      obtain ⟨⟨c', j⟩, hcj, rfl⟩ := List.mem_map.1 hc
      split at hc'
      · simp only [Answer.spawned?, Option.toList_some, List.map_cons, List.map_nil,
          List.mem_singleton] at hc'
        subst hc'
        exact h.fresh b j hcj
      · cases hc'

theorem Kinship.step {s : Setup} {x y : Interleaving} (h : x.Kinship) (hx : x.Orderly s)
    (hstep : Step x y) : y.Kinship := by
  cases hstep with
  | start job => exact h.start job
  | tell _ => exact h.congr (by simp) (by simp [Answer.spawned?])
  | claim _ _ => exact h.congr (by simp) (by simp [Answer.spawned?])
  | refuse _ _ => exact h.congr (by simp) (by simp [Answer.spawned?])
  | release _ => exact h.congr (by simp) (by simp [Answer.spawned?])
  | spawn hid => exact h.spawn (lt_length_of_state? hid) _ _ _
  | pause _ _ => exact h.congr (by simp) (by simp)
  | @reply id op next hid reply =>
    have hnone : (⟨op, reply⟩ : Answer).spawned? = none :=
      Answer.spawned?_of_not_isPrompt (hx.pauses id op next hid)
    exact h.congr (by simp) (by simp [hnone])
  | finish _ => exact h.congr (by simp) (by simp)

/-- In every interleaving, tasks are related as they should be to those that started them. -/
theorem Reachable.kinship {s : Setup} {x : Interleaving} (h : Reachable s x) : x.Kinship := by
  refine h.induction ?_ fun x y hx ih hstep => ih.step hx.orderly hstep
  refine ⟨fun b c job hc => ?_, fun c o job hc => ?_, fun b b' c job job' hc => ?_, fun b => ?_⟩
  · simp [spawns, dialogue] at hc
  · simp [kin?] at hc
  · simp [spawns, dialogue] at hc
  · simp [spawns, dialogue]

/-- A task without tasks of its own is the only one that is attributed to it. -/
theorem Kinship.eq_of_originOf {x : Interleaving} (h : x.Kinship) {a c : Nat}
    (hnone : x.spawns a = []) (hc : x.originOf c = a) : c = a := by
  induction c using Nat.strongRecOn with
  | ind c ih =>
    cases hkin : x.kin? c with
    | none =>
      rw [originOf_eq, hkin] at hc
      exact hc
    | some k =>
      obtain ⟨job, o⟩ := k
      have ho : o = a := by
        rw [originOf_eq, hkin] at hc
        exact hc
      rcases h.parent c o job hkin with heq | ⟨b, hb, hob⟩
      · rw [← heq, ho]
      · -- The task was started by one that is attributed alike, which can only be the task itself.
        obtain ⟨hlt, -⟩ := h.started b c job hb
        obtain rfl := ih b hlt (hob.symm.trans ho)
        rw [hnone] at hb
        cases hb

/-- The questions at which a task has paused are those that it was answered and the one that it
pauses at. -/
def Recorded (x : Interleaving) : Prop :=
  ∀ id, x.asked id = (x.dialogue id).pauses ++ x.awaiting id

theorem awaiting_of_state? {x : Interleaving} {id : TaskId} {state : Task.State}
    (h : x.state? id = some state) : x.awaiting id = state.pending := by
  rw [awaiting, h]
  rfl

theorem awaiting_setState_self {x : Interleaving} {id : TaskId} {state state' : Task.State}
    (h : x.state? id = some state) : (x.setState id state').awaiting id = state'.pending :=
  awaiting_of_state? (state?_setState (lt_length_of_state? h) state')

theorem awaiting_setState_of_ne (x : Interleaving) {id i : TaskId} (h : id ≠ i)
    (state : Task.State) : (x.setState id state).awaiting i = x.awaiting i := by
  rw [awaiting, state?_setState_of_ne x h]
  rfl

theorem awaiting_add (x : Interleaving) (job : Job) (origin i : TaskId) :
    (x.add job origin).awaiting i = x.awaiting i := by
  rcases Nat.lt_trichotomy i x.parties.length with hlt | rfl | hgt
  · rw [awaiting, state?, parties_add_of_lt x hlt]
    rfl
  · -- The new task is ready, and there was none under its number.
    rw [awaiting, state?, parties_add_self, awaiting, state?,
      List.getElem?_eq_none (Nat.le_refl _)]
    rfl
  · have hle : (x.add job origin).parties.length ≤ i := by
      rw [length_parties_add]
      exact hgt
    rw [awaiting, state?, List.getElem?_eq_none hle, awaiting, state?,
      List.getElem?_eq_none (Nat.le_of_lt hgt)]

/-- A task that is answered where it pauses, or on the spot, has paused as recorded. -/
theorem Recorded.answer {x : Interleaving} (h : x.Recorded) {id : TaskId} {state : Task.State}
    (hid : x.state? id = some state) {a : Answer}
    (hstate : state.pending = Dialogue.pauses [a]) (p : Program Job.Result) :
    (x.answer id a p).Recorded := by
  intro i
  rw [asked_answer, dialogue_answer, h i]
  by_cases hi : id = i
  · subst hi
    rw [if_pos rfl, awaiting_of_state? hid, hstate, Dialogue.pauses_append,
      Interleaving.answer, awaiting_note, awaiting_setState_self hid]
    simp [Task.State.pending]
  · rw [if_neg hi, List.append_nil, Interleaving.answer, awaiting_note,
      awaiting_setState_of_ne x hi]

theorem Recorded.add {x : Interleaving} (h : x.Recorded) (job : Job) (origin : TaskId) :
    (x.add job origin).Recorded := by
  intro i
  rw [awaiting_add]
  exact h i

theorem Recorded.step {s : Setup} {x y : Interleaving} (h : x.Recorded) (hx : x.Orderly s)
    (hstep : Step x y) : y.Recorded := by
  cases hstep with
  | start job => exact h.add job _
  | tell hid => exact h.answer hid rfl _
  | claim hid _ => exact Recorded.answer (x := x.setInFlight _) h hid rfl _
  | refuse hid _ => exact h.answer hid rfl _
  | release hid => exact Recorded.answer (x := x.setInFlight _) h hid rfl _
  | spawn hid => exact (h.add _ _).answer (state?_add hid _ _) rfl _
  | @pause id op next hid hop =>
    intro i
    rw [asked_note_asked, asked_setState, dialogue_note_asked, dialogue_setState, awaiting_note,
      h i]
    by_cases hi : id = i
    · subst hi
      rw [if_pos rfl, awaiting_of_state? hid, awaiting_setState_self hid]
      simp [Task.State.pending]
    · rw [if_neg hi, awaiting_setState_of_ne x hi, List.append_nil]
  | @reply id op next hid reply =>
    refine h.answer hid ?_ _
    simp [Task.State.pending, Dialogue.pauses, hx.pauses id op next hid]
  | @finish id r hid =>
    intro i
    rw [asked_setState, dialogue_setState, h i]
    by_cases hi : id = i
    · subst hi
      rw [awaiting_of_state? hid, awaiting_setState_self hid]
      rfl
    · rw [awaiting_setState_of_ne x hi]

/-- In every interleaving, tasks have paused as recorded. -/
theorem Reachable.recorded {s : Setup} {x : Interleaving} (h : Reachable s x) : x.Recorded :=
  h.induction (fun _ => rfl) fun _ _ hx ih hstep => ih.step hx.orderly hstep

end Interleaving

end IndexSync
