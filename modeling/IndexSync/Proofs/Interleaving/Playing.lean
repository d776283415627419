import IndexSync.Proofs.Delay
import IndexSync.Proofs.Evidence
import IndexSync.Proofs.Interleaving.Claims
import IndexSync.Scene

/-!
# Scenes played by interleavings

A scene lets its tasks take turns in one particular order, and its world answers them. An
interleaving plays a scene if its tasks stand at the same states and have the same claims, and if
the answers in it are those that the world of the scene gives.

* `World.Keeps w w'` — what no question of a task changes in a world, claims apart;
* `World.Gave w a` — an answer is one that the world gives, with whatever is on its disk;
* `Interleaving.Plays x s` — an interleaving has the tasks and the claims of a scene.
-/

namespace IndexSync

namespace World

/-- What is the same in two worlds between which no task took a claim or gave one up. -/
structure Keeps (w w' : World) : Prop where
  /-- The claims on projects. -/
  inFlight : w'.inFlight = w.inFlight
  /-- Who starts tasks and waits. -/
  scheduling : w'.scheduling = w.scheduling
  /-- The size up to which indexes count as missing. -/
  minSize : w'.minSize = w.minSize
  /-- Where fingerprints come from. -/
  fingerprints : w'.fingerprints = w.fingerprints

theorem Keeps.refl (w : World) : w.Keeps w := ⟨rfl, rfl, rfl, rfl⟩

theorem Keeps.trans {u v w : World} (huv : u.Keeps v) (hvw : v.Keeps w) : u.Keeps w :=
  ⟨hvw.inFlight.trans huv.inFlight, hvw.scheduling.trans huv.scheduling,
    hvw.minSize.trans huv.minSize, hvw.fingerprints.trans huv.fingerprints⟩

/-- Events change nothing else. -/
theorem keeps_afterAll (w : World) (trace : Trace) : w.Keeps (w.afterAll trace) := by
  rw [afterAll_eq]
  exact ⟨rfl, rfl, rfl, rfl⟩

end World

/-- Something done in a world that leaves the claims and the settings alone. -/
def Act.Keeps {α : Type} (a : Act α) : Prop := ∀ w : World, w.Keeps (a w).2

namespace Act

variable {α β : Type}

theorem Keeps.bind {a : Act α} {f : α → Act β} (ha : a.Keeps) (hf : ∀ x, (f x).Keeps) :
    Act.Keeps (a >>= f) := by
  intro w
  have hfirst := ha w
  change w.Keeps (ExceptT.bindCont f (a w).1 (a w).2).2
  cases (a w).1 with
  | ok x => exact hfirst.trans (hf x _)
  | error e => exact hfirst

theorem keeps_pure (x : α) : Act.Keeps (pure x : Act α) := fun w => .refl w

theorem keeps_traced (f : World → Traced α) : Act.Keeps (World.traced f) :=
  fun w => w.keeps_afterAll _

theorem keeps_startService : Act.Keeps World.startService := by
  intro w
  unfold World.startService World.step
  dsimp only
  split
  · exact ⟨rfl, rfl, rfl, rfl⟩
  · exact (w.keeps_afterAll _).trans ⟨rfl, rfl, rfl, rfl⟩

theorem keeps_wait (ms : Int) : Act.Keeps (World.wait ms) := by
  intro w
  unfold World.wait World.step
  dsimp only
  split
  · exact ⟨rfl, rfl, rfl, rfl⟩
  · exact .refl w

theorem keeps_answer (name : String) : Act.Keeps (World.answer name) :=
  fun w => (w.keeps_afterAll _).trans ⟨rfl, rfl, rfl, rfl⟩

theorem keeps_locate : Act.Keeps World.locate := by
  have hsearch : ∀ start, Act.Keeps
      (World.traced fun w => Project.search w.host w.patterns start) := fun _ => keeps_traced _
  unfold World.locate Project.locate
  refine Keeps.bind (fun w => ⟨rfl, rfl, rfl, rfl⟩) fun dir => ?_
  refine Keeps.bind (hsearch dir) fun found => ?_
  split
  · exact keeps_pure _
  · refine Keeps.bind (fun w => ⟨rfl, rfl, rfl, rfl⟩) fun document => ?_
    split
    · exact hsearch _
    · exact keeps_pure _

theorem keeps_assess (root index : FsPath) (stored : Option String) :
    Act.Keeps (World.assess root index stored) := keeps_traced _

theorem keeps_perform (action : Action) (options : Options) :
    Act.Keeps (World.perform action options) := fun _ => ⟨rfl, rfl, rfl, rfl⟩

theorem keeps_consult : Act.Keeps World.consult := by
  intro w
  unfold World.consult World.step
  dsimp only
  split <;> exact ⟨rfl, rfl, rfl, rfl⟩

end Act

namespace World

/-- To send a request affects neither claims nor settings. -/
theorem keeps_request (name : String) (params : Options) (w : World) :
    w.Keeps (World.request name params w).2 := by
  unfold World.request
  split
  · exact (⟨rfl, rfl, rfl, rfl⟩ : w.Keeps (w.after (.request name params))).trans
      (Act.keeps_answer name _)
  · exact (w.keeps_afterAll _).trans ⟨rfl, rfl, rfl, rfl⟩

/-- An answer about a wait or an index is one that the world gives, with whatever is on the disk. -/
def Gave (w : World) : Answer → Prop
  | ⟨.wait ms, reply⟩ => (World.wait ms w).1 = reply
  | ⟨.assess root file stored, reply⟩ =>
    ∃ h : Host, (Staleness.assess w.fingerprints h w.minSize root file stored).outcome = reply
  | _ => True

/-- Answers that the world gives are not affected by what tasks ask. -/
theorem Gave.keeps {w w' : World} {a : Answer} (h : w.Gave a)
    (hkeeps : w'.scheduling = w.scheduling ∧ w'.minSize = w.minSize ∧
      w'.fingerprints = w.fingerprints) : w'.Gave a := by
  obtain ⟨hscheduling, hsize, hfingerprints⟩ := hkeeps
  obtain ⟨op, reply⟩ := a
  cases op with
  | wait ms =>
    change (World.wait ms w').1 = reply
    rw [World.wait_fst, hscheduling, ← World.wait_fst]
    exact h
  | assess root file stored =>
    change ∃ host, (Staleness.assess w'.fingerprints host w'.minSize _ _ _).outcome = reply
    rw [hsize, hfingerprints]
    exact h
  | _ => trivial

end World

namespace Scene

/-- Questions that are not answered on the spot touch neither the tasks nor the claims. -/
theorem answer_keeps {op : Ask} (hop : op.isPrompt = false) (s : Scene) :
    ∃ w, (s.answer op).2 = { s with world := w } ∧ s.world.Keeps w := by
  cases op with
  | startService => exact ⟨_, rfl, Act.keeps_startService _⟩
  | wait ms => exact ⟨_, rfl, Act.keeps_wait ms _⟩
  | request name params =>
    unfold answer request
    dsimp only
    split
    · exact ⟨_, rfl, rfl, rfl, rfl, rfl⟩
    · exact ⟨_, rfl, World.keeps_request name params _⟩
  | locate => exact ⟨_, rfl, Act.keeps_locate _⟩
  | assess root file stored => exact ⟨_, rfl, Act.keeps_assess root file stored _⟩
  | perform action options => exact ⟨_, rfl, Act.keeps_perform action options _⟩
  | consult => exact ⟨_, rfl, Act.keeps_consult _⟩
  | gate name => exact ⟨_, rfl, .refl _⟩
  | join id => exact ⟨_, rfl, .refl _⟩
  | drain => exact ⟨_, rfl, .refl _⟩
  | _ => cases hop

/-- What a scene answers is what its world gives. -/
theorem answer_gave {op : Ask} {s : Scene} {reply : Except Failure op.Reply}
    (h : (s.answer op).1 = some reply) : s.world.Gave ⟨op, reply⟩ := by
  cases op with
  | wait ms => exact Option.some.inj h
  | assess root file stored => exact ⟨s.world.host, Option.some.inj h⟩
  | _ => trivial

end Scene

namespace Pool

/-- The job of a task and where the task stands. -/
def look (p : Pool) (id : TaskId) : Option (Job × Task.State) :=
  p.tasks[id]?.map fun t => (t.job, t.state)

theorem look_setState (p : Pool) (id i : TaskId) (state : Task.State) :
    (p.setState id state).look i =
      if id = i then (p.look i).map fun k => (k.1, state) else p.look i := by
  unfold look setState
  rw [List.getElem?_modify]
  split <;> cases p.tasks[i]? <;> rfl

theorem look_add (p : Pool) (i : Nat) (name : String) (job : Job) (program : Program Job.Result)
    (tracked : Bool) :
    (p.add name job program tracked).2.look i =
      if i = p.tasks.length then some (job, .ready program) else p.look i := by
  change (p.tasks ++ [(⟨name, job, .ready program⟩ : Task)])[i]?.map _ = _
  unfold look
  rcases Nat.lt_trichotomy i p.tasks.length with hlt | rfl | hgt
  · rw [if_neg (Nat.ne_of_lt hlt), List.getElem?_append_left hlt]
  · rw [if_pos rfl, List.getElem?_append_right (Nat.le_refl _), Nat.sub_self]
    rfl
  · have hlength : (p.tasks ++ [(⟨name, job, .ready program⟩ : Task)]).length ≤ i := by
      rw [List.length_append]
      exact hgt
    rw [if_neg (Nat.ne_of_gt hgt), List.getElem?_eq_none hlength,
      List.getElem?_eq_none (Nat.le_of_lt hgt)]

theorem state_eq_look (p : Pool) (id : TaskId) :
    p.tasks[id]?.map Task.state = (p.look id).map Prod.snd := by
  unfold look
  rw [Option.map_map]
  rfl

/-- A task that goes on because what it waited for has come about is given the reply that it would
be given now. It did not wait for all tasks. -/
theorem resume?_eq_some {p : Pool} {id : TaskId} {program : Program Job.Result}
    (h : p.resume? id = some program) : ∃ op next reply, op ≠ .drain ∧
      (p.look id).map Prod.snd = some (.blocked op next) ∧ program = next reply ∧
      (∀ w : World, w.Gave ⟨op, reply⟩) ∧
      ∀ s : Scene, s.pool = p → (s.answer op).1 = some reply := by
  unfold resume? at h
  rw [state_eq_look] at h
  split at h
  · next g next hstate =>
    rw [Option.ite_none_right_eq_some] at h
    refine ⟨_, next, .ok (), by simp, hstate, (Option.some.inj h.2).symm, fun _ => trivial, ?_⟩
    rintro s rfl
    exact if_pos h.1
  · next other next hstate =>
    rw [Option.ite_none_left_eq_some] at h
    obtain ⟨reply, hresult, hreply⟩ := Option.map_eq_some_iff.1 h.2
    refine ⟨_, next, reply, by simp, hstate, hreply.symm, fun _ => trivial, ?_⟩
    rintro s rfl
    exact (if_neg h.1).trans hresult
  · cases h

/-- What turns are coming makes no difference to whether a task is woken. -/
theorem exists_rouse (p : Pool) (id : TaskId) : ∃ turns, ∀ queue,
    rouse { p with queue } id = { p.rouse id with queue := queue ++ turns } := by
  have hsame : ∀ queue, resume? { p with queue } id = p.resume? id := fun _ => rfl
  cases hresume : p.resume? id with
  | none =>
    refine ⟨[], fun queue => ?_⟩
    rw [rouse, hsame, hresume, rouse, hresume, List.append_nil]
  | some program =>
    refine ⟨[.go id], fun queue => ?_⟩
    rw [rouse, hsame, hresume, rouse, hresume]
    rfl

/-- Those who are woken get their turns after those that are coming anyway. -/
theorem exists_rouseAll (p : Pool) : ∃ turns, ∀ queue,
    rouseAll { p with queue } = { p.rouseAll with queue := queue ++ turns } := by
  have hall : ∀ (ids : List TaskId) (p : Pool), ∃ turns, ∀ queue,
      ids.foldl rouse { p with queue } = { ids.foldl rouse p with queue := queue ++ turns } := by
    intro ids
    induction ids with
    | nil => exact fun p => ⟨[], fun queue => by simp⟩
    | cons id ids ih =>
      intro p
      obtain ⟨first, hfirst⟩ := p.exists_rouse id
      obtain ⟨rest, hrest⟩ := ih (p.rouse id)
      refine ⟨first ++ rest, fun queue => ?_⟩
      have hnext := hrest (queue ++ first)
      rw [List.append_assoc] at hnext
      exact (congrArg (ids.foldl rouse) (hfirst queue)).trans hnext
  exact hall p.waiting p

end Pool

namespace Interleaving

/-- The job of a task and where the task stands. -/
def look (x : Interleaving) (id : TaskId) : Option (Job × Task.State) :=
  x.parties[id]?.map fun p => (p.job, p.state)

theorem state?_eq_look (x : Interleaving) (id : TaskId) :
    x.state? id = (x.look id).map Prod.snd := by
  unfold state? look
  rw [Option.map_map]
  rfl

theorem look_setState (x : Interleaving) (id i : TaskId) (state : Task.State) :
    (x.setState id state).look i =
      if id = i then (x.look i).map fun k => (k.1, state) else x.look i := by
  unfold look
  rw [parties_setState]
  split
  · rw [Option.map_map, Option.map_map]
    rfl
  · rfl

theorem look_add (x : Interleaving) (i : TaskId) (job : Job) (origin : TaskId) :
    (x.add job origin).look i =
      if i = x.parties.length then some (job, .ready (job.program x.setup)) else x.look i := by
  unfold look
  by_cases hi : i = x.parties.length
  · rw [if_pos hi, hi, parties_add_self]
    rfl
  · rw [if_neg hi]
    rcases Nat.lt_or_gt_of_ne hi with hlt | hgt
    · rw [parties_add_of_lt x hlt]
    · rw [List.getElem?_eq_none (by simp; omega), List.getElem?_eq_none (by omega)]

/-- An interleaving has the tasks and the claims of a scene, except that one task may stand
elsewhere. All waits and judgements of indexes are answered as in the world of the scene. -/
structure PlaysBut (x : Interleaving) (s : Scene) (id : TaskId) : Prop where
  /-- What activations have in common. -/
  setup : x.setup = s.setup
  /-- The claims. -/
  inFlight : x.inFlight = s.world.inFlight
  /-- The number of tasks. -/
  count : x.parties.length = s.pool.tasks.length
  /-- The other tasks. -/
  others : ∀ i, i ≠ id → x.look i = s.pool.look i
  /-- The job of the task. -/
  job : (x.look id).map Prod.fst = (s.pool.look id).map Prod.fst
  /-- The answers. -/
  gave : ∀ i a, .answered i a ∈ x.moments → s.world.Gave a

/-- An interleaving has the tasks and the claims of a scene. -/
structure Plays (x : Interleaving) (s : Scene) : Prop where
  /-- What activations have in common. -/
  setup : x.setup = s.setup
  /-- The claims. -/
  inFlight : x.inFlight = s.world.inFlight
  /-- The number of tasks. -/
  count : x.parties.length = s.pool.tasks.length
  /-- The tasks. -/
  look : ∀ i, x.look i = s.pool.look i
  /-- The answers. -/
  gave : ∀ i a, .answered i a ∈ x.moments → s.world.Gave a

variable {x : Interleaving} {s : Scene} {id : TaskId}

/-- Scenes that differ only in what is queued, held back or open have the same tasks and claims. -/
theorem Plays.congr (h : x.Plays s) {s' : Scene} (hsetup : s'.setup = s.setup)
    (hworld : s'.world = s.world) (htasks : s'.pool.tasks = s.pool.tasks) : x.Plays s' := by
  refine ⟨h.setup.trans hsetup.symm, ?_, ?_, fun i => ?_, ?_⟩
  · rw [hworld]
    exact h.inFlight
  · rw [htasks]
    exact h.count
  · rw [Pool.look, htasks]
    exact h.look i
  · rw [hworld]
    exact h.gave

theorem Plays.but (h : x.Plays s) (id : TaskId) : x.PlaysBut s id :=
  ⟨h.setup, h.inFlight, h.count, fun i _ => h.look i, by rw [h.look], h.gave⟩

/-- Two tasks that do the same job stand at the same place once they are put there. -/
theorem map_state_eq {a b : Option (Job × Task.State)} (h : a.map Prod.fst = b.map Prod.fst)
    (state : Task.State) : a.map (fun k => (k.1, state)) = b.map fun k => (k.1, state) := by
  have hmap : ∀ o : Option (Job × Task.State),
      o.map (fun k => (k.1, state)) = (o.map Prod.fst).map fun job => (job, state) := by
    intro o
    rw [Option.map_map]
    rfl
  rw [hmap, hmap, h]

/-- Once the task stands where it stands in the scene, the scene is played. -/
theorem PlaysBut.setState (h : x.PlaysBut s id) (state : Task.State) :
    (x.setState id state).Plays { s with pool := s.pool.setState id state } := by
  refine ⟨h.setup, h.inFlight, ?_, fun i => ?_, h.gave⟩
  · rw [length_parties_setState, h.count]
    exact (List.length_modify ..).symm
  · rw [look_setState, Pool.look_setState]
    by_cases hi : id = i
    · subst hi
      rw [if_pos rfl, if_pos rfl]
      exact map_state_eq h.job state
    · rw [if_neg hi, if_neg hi]
      exact h.others i (Ne.symm hi)

/-- The task may be moved elsewhere. -/
theorem PlaysBut.moved (h : x.PlaysBut s id) (state : Task.State) :
    (x.setState id state).PlaysBut s id := by
  refine ⟨h.setup, h.inFlight, ?_, fun i hi => ?_, ?_, h.gave⟩
  · rw [length_parties_setState, h.count]
  · rw [look_setState, if_neg (Ne.symm hi)]
    exact h.others i hi
  · rw [look_setState, if_pos rfl, Option.map_map, ← h.job]
    rfl

/-- The task may be answered as the world would have it. -/
theorem PlaysBut.answer (h : x.PlaysBut s id) {a : Answer} (ha : s.world.Gave a)
    (p : Program Job.Result) : (x.answer id a p).PlaysBut s id := by
  obtain ⟨hsetup, hflight, hcount, hothers, hjob, hgave⟩ := h.moved (.ready p)
  refine ⟨hsetup, hflight, hcount, hothers, hjob, fun i b hb => ?_⟩
  rw [moments_answer, List.mem_append] at hb
  rcases hb with hb | hb
  · exact h.gave i b hb
  · rw [List.mem_singleton, Moment.answered.injEq] at hb
    rw [hb.2]
    exact ha

/-- The world may change in what tasks do not share. -/
theorem PlaysBut.world (h : x.PlaysBut s id) {w : World} (hw : s.world.Keeps w) :
    x.PlaysBut { s with world := w } id :=
  ⟨h.setup, h.inFlight.trans hw.inFlight.symm, h.count, h.others, h.job, fun i a ha =>
    (h.gave i a ha).keeps ⟨hw.scheduling, hw.minSize, hw.fingerprints⟩⟩

/-- A task may be started. -/
theorem PlaysBut.add (h : x.PlaysBut s id) (hid : id < x.parties.length) (name : String)
    (job : Job) (tracked : Bool) (origin : TaskId) :
    (x.add job origin).PlaysBut (s.start name job tracked).2 id := by
  refine ⟨h.setup, h.inFlight, ?_, fun i hi => ?_, ?_, h.gave⟩
  · change _ = (s.pool.tasks ++ [_]).length
    rw [length_parties_add, h.count, List.length_append]
    rfl
  · change _ = (s.pool.add name job (job.program s.setup) tracked).2.look i
    rw [look_add, Pool.look_add, h.count, h.setup, h.others i hi]
  · change _ = ((s.pool.add name job (job.program s.setup) tracked).2.look id).map _
    rw [look_add, Pool.look_add, ← h.count, if_neg (Nat.ne_of_lt hid), if_neg (Nat.ne_of_lt hid)]
    exact h.job

/-- A task pauses at a question that is not answered on the spot. -/
theorem proceed_pause {op : Ask} (hop : op.isPrompt = false)
    (next : Except Failure op.Reply → Program Job.Result) (x : Interleaving) :
    x.proceed id (.ask op next) = (x.setState id (.blocked op next)).note (.asked id op) := by
  cases op with
  | emit | enter | leave | spawn => cases hop
  | _ => rfl

/-- The claims may change on both sides. -/
theorem PlaysBut.claims (h : x.PlaysBut s id) (keys : List String) :
    (x.setInFlight keys).PlaysBut { s with world := { s.world with inFlight := keys } } id :=
  ⟨h.setup, rfl, h.count, h.others, h.job, fun i a ha => (h.gave i a ha).keeps ⟨rfl, rfl, rfl⟩⟩

/-- What a task has paused at is not an answer. -/
theorem PlaysBut.asked (h : x.PlaysBut s id) (i : TaskId) (op : Ask) :
    (x.note (.asked i op)).PlaysBut s id := by
  refine ⟨h.setup, h.inFlight, h.count, h.others, h.job, fun j a ha => ?_⟩
  rw [moments_note, List.mem_append] at ha
  rcases ha with ha | ha
  · exact h.gave j a ha
  · cases List.mem_singleton.1 ha

/-- What is answered on the spot is answered as in the scene. -/
theorem PlaysBut.promptly (h : x.PlaysBut s id) (hid : id < x.parties.length) {op : Ask}
    (hop : op.isPrompt = true) : ∃ reply y, x.promptly id op = some (reply, y) ∧
      (s.answer op).1 = some reply ∧ y.PlaysBut (s.answer op).2 id ∧ id < y.parties.length := by
  cases op with
  | emit e => exact ⟨_, _, rfl, rfl, h.world ⟨rfl, rfl, rfl, rfl⟩, hid⟩
  | enter key =>
    cases hkey : s.world.inFlight.contains key with
    | true =>
      have henter : World.enter key s.world = (.ok false, s.world) := if_pos hkey
      have hanswer : s.answer (.enter key) = (some (.ok false), s) := by
        change (some (World.enter key s.world).1,
          { s with world := (World.enter key s.world).2 }) = _
        rw [henter]
        rfl
      refine ⟨.ok false, x, ?_, by rw [hanswer], by rw [hanswer]; exact h, hid⟩
      rw [Interleaving.promptly, h.inFlight, if_pos hkey]
    | false =>
      have henter : World.enter key s.world =
          (.ok true, { s.world with inFlight := key :: s.world.inFlight }) :=
        if_neg (by rw [hkey]; decide)
      have hanswer : s.answer (.enter key) = (some (.ok true),
          { s with world := { s.world with inFlight := key :: s.world.inFlight } }) := by
        change (some (World.enter key s.world).1,
          { s with world := (World.enter key s.world).2 }) = _
        rw [henter]
        rfl
      refine ⟨.ok true, x.setInFlight (key :: s.world.inFlight), ?_, by rw [hanswer], ?_, hid⟩
      · rw [Interleaving.promptly, h.inFlight, if_neg (by rw [hkey]; decide)]
      · rw [hanswer]
        exact h.claims _
  | leave key =>
    refine ⟨.ok (), x.setInFlight (s.world.inFlight.erase key), ?_, rfl, h.claims _, hid⟩
    rw [Interleaving.promptly, h.inFlight]
  | spawn name job =>
    have hworld := s.world.keeps_afterAll (s.world.scheduling.spawning name)
    refine ⟨.ok x.parties.length, x.add job (x.originOf id), rfl, ?_, ?_, ?_⟩
    · rw [h.count]
      rfl
    · exact (h.world hworld).add hid name job true _
    · rw [length_parties_add]
      exact Nat.lt_succ_of_lt hid
  | _ => cases hop

/-- The world may change in what tasks do not share. -/
theorem Plays.world (h : x.Plays s) {w : World} (hw : s.world.Keeps w) :
    x.Plays { s with world := w } := by
  have hworld := (h.but 0).world hw
  exact ⟨hworld.setup, hworld.inFlight, h.count, h.look, hworld.gave⟩

/-- A task may be started by the host. -/
theorem Plays.start (h : x.Plays s) (name : String) (job : Job) (tracked : Bool) :
    (x.move (.start job)).Plays (s.start name job tracked).2 := by
  refine ⟨h.setup, h.inFlight, ?_, fun i => ?_, h.gave⟩
  · change (x.add job _).parties.length = (s.pool.tasks ++ [_]).length
    rw [length_parties_add, h.count, List.length_append]
    rfl
  · change (x.add job _).look i = (s.pool.add name job (job.program s.setup) tracked).2.look i
    rw [look_add, Pool.look_add, h.count, h.setup, h.look]

/-- Tasks stand where they stand in the scene. -/
theorem Plays.state? (h : x.Plays s) (id : TaskId) :
    x.state? id = s.pool.tasks[id]?.map Task.state := by
  rw [state?_eq_look, h.look, Pool.state_eq_look]

/-- A task that stands where the scene would put it need not be moved. -/
theorem PlaysBut.plays (h : x.PlaysBut s id) {state : Task.State}
    (hstate : x.state? id = some state) :
    x.Plays { s with pool := s.pool.setState id state } := by
  refine ⟨h.setup, h.inFlight, ?_, fun i => ?_, h.gave⟩
  · rw [h.count]
    exact (List.length_modify ..).symm
  · rw [Pool.look_setState]
    by_cases hi : id = i
    · subst hi
      have hsame := map_state_eq h.job state
      rw [state?_eq_look] at hstate
      obtain ⟨⟨job, state'⟩, hlook, rfl⟩ := Option.map_eq_some_iff.1 hstate
      rw [if_pos rfl, ← hsame, hlook]
      rfl
    · rw [if_neg hi]
      exact h.others i (Ne.symm hi)

end Interleaving

namespace Pool

/-- The end of a task is where it stands. -/
theorem result?_eq_some {p : Pool} {id : TaskId} {r : Except Failure Job.Result}
    (h : p.result? id = some r) : (p.look id).map Prod.snd = some (.ended r) := by
  obtain ⟨t, ht, hresult⟩ := Option.bind_eq_some_iff.1 h
  rw [← state_eq_look, ht, Option.map_some]
  unfold Task.result? at hresult
  split at hresult
  · next r' hstate => rw [hstate, Option.some.inj hresult]
  · cases hresult

end Pool

end IndexSync
