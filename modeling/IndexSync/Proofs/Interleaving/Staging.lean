import IndexSync.Proofs.Interleaving.Attendance
import IndexSync.Proofs.Interleaving.Playing

/-!
# Scenes as shifts

Whatever is done with a scene, some moves of a shift lead to the same tasks at the same states, to
the same claims and to the same roster, and the turns that the scene has coming are those that the
shift leaves open: of the tasks that can go on, of those that have ended and are to be noticed, and
of those that wait for all tasks and are to look again.

* `Shift.Queued y queue goes` — which turns are coming;
* `Shift.Plays y s` — a shift has the tasks, the roster and the turns of a scene;
* `Scene.Staged` — a scene that starts out empty and to which things are done;
* `Scene.Staged.shifts`, `Scene.Staged.plays` — every such scene is played by a shift, and so by an
  interleaving;
* `Scene.Staged.waits`, `Scene.Staged.blocked_of_tracked` — those who wait for all tasks in scenes;
* `Scene.Staged.inFlight` — the guard of projects in scenes.
-/

namespace IndexSync

/-- The task that goes on in a turn, if one does. -/
def Turn.goer? : Turn → Option TaskId
  | .go id => some id
  | .retire _ => none

theorem Turn.goer?_eq_some {turn : Turn} {id : TaskId} : turn.goer? = some id ↔ turn = .go id := by
  cases turn <;> simp [goer?]

namespace Shift

open Interleaving

variable {y z : Shift} {s : Scene} {id : TaskId}

/-- A task can go on, or it waits for all tasks and is to look. -/
def Goes (y : Shift) (id : TaskId) : Prop :=
  (∃ p, y.tasks.state? id = some (.ready p)) ∨ id ∈ y.due

/-- The turns that are coming are those of tasks that have ended and whose end was not noticed, and
one each of certain others. -/
structure Queued (y : Shift) (queue : List Turn) (goes : TaskId → Prop) : Prop where
  /-- An end that has come about was noticed or is to be noticed. -/
  ended : ∀ c, (∃ r, y.tasks.state? c = some (.ended r)) ↔ c ∈ y.noticed ∨ .retire c ∈ queue
  /-- The others are to go on. -/
  goers : ∀ c, .go c ∈ queue ↔ goes c
  /-- None of them has two turns coming. -/
  once : (queue.filterMap Turn.goer?).Nodup

section Queued

variable {queue : List Turn} {goes : TaskId → Prop}

/-- The order of turns does not matter. -/
theorem Queued.perm (h : y.Queued queue goes) {queue' : List Turn} (hperm : queue'.Perm queue) :
    y.Queued queue' goes where
  ended c := by rw [hperm.mem_iff, h.ended]
  goers c := by rw [hperm.mem_iff, h.goers]
  once := (hperm.filterMap _).nodup_iff.2 h.once

/-- Tasks may move on without an end. -/
theorem Queued.congr (h : y.Queued queue goes) {goes' : TaskId → Prop}
    (hended : ∀ c, (∃ r, z.tasks.state? c = some (.ended r)) ↔
      ∃ r, y.tasks.state? c = some (.ended r))
    (hnoticed : z.noticed = y.noticed) (hgoes : ∀ c, goes' c ↔ goes c) : z.Queued queue goes' where
  ended c := by rw [hended, hnoticed, h.ended]
  goers c := by rw [hgoes, h.goers]
  once := h.once

/-- More tasks may be given a turn. -/
theorem Queued.enqueue (h : y.Queued queue goes) {ids : List TaskId} (hids : ids.Nodup)
    (hnot : ∀ c ∈ ids, ¬goes c) :
    y.Queued (queue ++ ids.map .go) fun c => goes c ∨ c ∈ ids where
  ended c := by simp [h.ended]
  goers c := by simp [h.goers]
  once := by
    have hmap : (ids.map Turn.go).filterMap Turn.goer? = ids := by
      rw [List.filterMap_map]
      exact List.filterMap_some
    rw [List.filterMap_append, hmap]
    refine List.nodup_append.2 ⟨h.once, hids, ?_⟩
    rintro c hc c' hc' rfl
    obtain ⟨turn, hturn, hgoer⟩ := List.mem_filterMap.1 hc
    rw [Turn.goer?_eq_some.1 hgoer, h.goers] at hturn
    exact hnot c hc' hturn

/-- The first turn that is coming may be taken off. -/
theorem Queued.pop (h : y.Queued (.go id :: queue) goes) :
    goes id ∧ y.Queued queue fun c => c ≠ id ∧ goes c := by
  have honce := List.nodup_cons.1 h.once
  have hnot : .go id ∉ queue := fun hmem =>
    honce.1 (List.mem_filterMap.2 ⟨_, hmem, Turn.goer?_eq_some.2 rfl⟩)
  refine ⟨(h.goers id).1 List.mem_cons_self, fun c => ?_, fun c => ?_, honce.2⟩
  · rw [h.ended, List.mem_cons]
    exact or_congr_right (or_iff_right (by simp))
  · rw [← h.goers, List.mem_cons, Turn.go.injEq]
    constructor
    · intro hc
      refine ⟨?_, Or.inr hc⟩
      rintro rfl
      exact hnot hc
    · exact fun hc => hc.2.resolve_left hc.1

/-- A task that is set aside may be moved elsewhere. -/
theorem Queued.moved (h : y.Queued queue fun c => c ≠ id ∧ y.Goes c) {state state' : Task.State}
    (hid : y.tasks.state? id = some state) (hgoing : ∀ r, state ≠ .ended r)
    (hid' : z.tasks.state? id = some state') (hgoing' : ∀ r, state' ≠ .ended r)
    (hothers : ∀ c, c ≠ id → z.tasks.state? c = y.tasks.state? c)
    (hdue : ∀ c, c ≠ id → (c ∈ z.due ↔ c ∈ y.due)) (hnoticed : z.noticed = y.noticed) :
    z.Queued queue fun c => c ≠ id ∧ z.Goes c := by
  refine h.congr (fun c => ?_) hnoticed fun c => and_congr_right fun hc => ?_
  · by_cases hc : c = id
    · subst hc
      rw [hid, hid']
      simp [hgoing, hgoing']
    · rw [hothers c hc]
  · rw [Goes, Goes, hothers c hc, hdue c hc]

/-- A task that has paused has no turn coming once it has looked. -/
theorem Queued.paused (h : y.Queued queue fun c => c ≠ id ∧ y.Goes c) {op : Ask}
    {next : Except Failure op.Reply → Program Job.Result}
    (hid : y.tasks.state? id = some (.blocked op next)) :
    Queued { y with due := y.due.filter (· != id) } queue
      (Goes { y with due := y.due.filter (· != id) }) := by
  have hready : ∀ c, c = id → ¬∃ p, y.tasks.state? c = some (.ready p) := by
    rintro c rfl ⟨p, hp⟩
    rw [hid] at hp
    cases hp
  refine h.congr (fun _ => Iff.rfl) rfl fun c => ?_
  have := hready c
  simp only [Goes, List.mem_filter, bne_iff_ne, ne_eq]
  tauto

/-- Once a task has ended, its end is to be noticed. -/
theorem Queued.finish (h : y.Queued queue fun c => c ≠ id ∧ y.Goes c)
    (hid : id < y.tasks.parties.length)
    (hdue : id ∉ y.due) (r : Except Failure Job.Result) :
    Queued { y with tasks := y.tasks.setState id (.ended r) } (queue ++ [.retire id])
      (Goes { y with tasks := y.tasks.setState id (.ended r) }) := by
  have hended : (y.tasks.setState id (.ended r)).state? id = some (.ended r) :=
    state?_setState hid _
  have hothers : ∀ c, c ≠ id → (y.tasks.setState id (.ended r)).state? c = y.tasks.state? c :=
    fun c hc => state?_setState_of_ne _ (Ne.symm hc) _
  refine ⟨fun c => ?_, fun c => ?_, ?_⟩
  · by_cases hc : c = id
    · subst hc
      exact iff_of_true ⟨r, hended⟩ (Or.inr (by simp))
    · rw [hothers c hc, h.ended, List.mem_append, List.mem_singleton, Turn.retire.injEq,
        or_iff_left hc]
  · rw [List.mem_append, or_iff_left (by simp), h.goers, Goes, Goes]
    by_cases hc : c = id
    · subst hc
      simp [hended, hdue]
    · rw [hothers c hc, and_iff_right hc]
  · rw [List.filterMap_append]
    exact (List.append_nil _).symm ▸ h.once

/-- A new task has its first turn coming. -/
theorem Queued.add (h : y.Queued queue goes) (hnew : ¬goes y.tasks.parties.length) (job : Job)
    (origin : TaskId) :
    Queued { y with tasks := y.tasks.add job origin } (queue ++ [.go y.tasks.parties.length])
      fun c => goes c ∨ c = y.tasks.parties.length := by
  have hone := h.enqueue (List.pairwise_singleton _ y.tasks.parties.length)
    fun c hc => List.mem_singleton.1 hc ▸ hnew
  refine hone.congr (fun c => ?_) rfl fun c => by rw [List.mem_singleton]
  constructor
  · rintro ⟨r, hr⟩
    obtain ⟨p, hp, hstate⟩ := state?_eq_some.1 hr
    rcases y.tasks.parties_add_cases hp with hold | ⟨-, rfl⟩
    · exact ⟨r, state?_eq_some.2 ⟨p, hold, hstate⟩⟩
    · cases hstate
  · rintro ⟨r, hr⟩
    exact ⟨r, state?_add hr job origin⟩

end Queued

section Goes

/-- Once a task is added, it can go on as well. -/
theorem goes_add (job : Job) (origin : TaskId) {c : TaskId} :
    Goes { y with tasks := y.tasks.add job origin } c ↔
      y.Goes c ∨ c = y.tasks.parties.length := by
  have hstate : (∃ p, (y.tasks.add job origin).state? c = some (.ready p)) ↔
      (∃ p, y.tasks.state? c = some (.ready p)) ∨ c = y.tasks.parties.length := by
    constructor
    · rintro ⟨p, hp⟩
      obtain ⟨q, hq, hstate⟩ := state?_eq_some.1 hp
      rcases y.tasks.parties_add_cases hq with hold | ⟨heq, -⟩
      · exact Or.inl ⟨p, state?_eq_some.2 ⟨q, hold, hstate⟩⟩
      · exact Or.inr heq
    · rintro (⟨p, hp⟩ | rfl)
      · exact ⟨p, state?_add hp job origin⟩
      · exact ⟨_, state?_eq_some.2 ⟨_, parties_add_self .., rfl⟩⟩
  rw [Goes, Goes, hstate]
  exact or_right_comm

/-- Whoever waits for something else than all tasks is not to look. -/
theorem Attended.not_mem_due (h : y.Attended) {state : Task.State}
    (hid : y.tasks.state? id = some state) (hstate : ∀ next, state ≠ .blocked .drain next) :
    id ∉ y.due :=
  fun hdue => y.tasks.not_drains_of_state? hid hstate (h.drains_of_due hdue)

/-- Then nobody's turn to look is taken as it is answered. -/
theorem Attended.filter_due (h : y.Attended) {op : Ask}
    {next : Except Failure op.Reply → Program Job.Result}
    (hid : y.tasks.state? id = some (.blocked op next)) (hop : op ≠ .drain) :
    y.due.filter (· != id) = y.due := by
  refine List.filter_eq_self.2 fun c hc => bne_iff_ne.2 ?_
  rintro rfl
  refine h.not_mem_due hid (fun next' heq => ?_) hc
  cases heq
  exact hop rfl

/-- Whoever can go on or is to look takes part. -/
theorem Attended.lt_length (h : y.Attended) {c : Nat} (hc : y.Goes c) :
    c < y.tasks.parties.length := by
  rcases hc with ⟨p, hp⟩ | hdue
  · exact lt_length_of_state? hp
  · obtain ⟨next, hnext⟩ := h.drains_of_due hdue
    exact lt_length_of_state? hnext

end Goes

/-- A shift has the tasks, the claims, the roster and the turns of a scene, except that one task,
which is not over in the scene and has no turn coming there, may stand elsewhere. -/
structure PlaysBut (y : Shift) (s : Scene) (id : TaskId) : Prop where
  /-- Nobody who waits for all tasks is forgotten. -/
  attended : y.Attended
  /-- The tasks and the claims. -/
  tasks : y.tasks.PlaysBut s id
  /-- The roster. -/
  roster : y.roster = s.pool.roster
  /-- The turns. -/
  queued : y.Queued s.pool.queue fun c => c ≠ id ∧ y.Goes c
  /-- The task is not over. -/
  going : ∀ r, (s.pool.look id).map Prod.snd ≠ some (.ended r)

/-- A shift has the tasks, the claims, the roster and the turns of a scene. -/
structure Plays (y : Shift) (s : Scene) : Prop where
  /-- Nobody who waits for all tasks is forgotten. -/
  attended : y.Attended
  /-- The tasks and the claims. -/
  tasks : y.tasks.Plays s
  /-- The roster. -/
  roster : y.roster = s.pool.roster
  /-- The turns. -/
  queued : y.Queued s.pool.queue y.Goes

/-- Scenes that differ only in what is held back or open and in the order of turns are played alike.
-/
theorem Plays.congr (h : y.Plays s) {s' : Scene} (hsetup : s'.setup = s.setup)
    (hworld : s'.world = s.world) (htasks : s'.pool.tasks = s.pool.tasks)
    (hroster : s'.pool.roster = s.pool.roster) (hqueue : s'.pool.queue.Perm s.pool.queue) :
    y.Plays s' :=
  ⟨h.attended, h.tasks.congr hsetup hworld htasks, h.roster.trans hroster.symm,
    h.queued.perm hqueue⟩

/-- A task that has no turn coming may be set aside. -/
theorem Plays.but (h : y.Plays s) {state : Task.State} (hid : y.tasks.state? id = some state)
    (hgoing : ∀ r, state ≠ .ended r) (hnot : ¬y.Goes id) : y.PlaysBut s id := by
  refine ⟨h.attended, h.tasks.but id, h.roster, ?_, fun r hr => ?_⟩
  · refine h.queued.congr (fun _ => Iff.rfl) rfl fun c => and_iff_right_of_imp ?_
    rintro hc rfl
    exact hnot hc
  · rw [← h.tasks.look, ← state?_eq_look, hid] at hr
    exact hgoing r (Option.some.inj hr)

/-- Some moves lead from a shift to one that plays a scene. -/
def LeadsTo (y : Shift) (s : Scene) : Prop := ∃ moves, (List.foldl move y moves).Plays s

theorem Plays.leadsTo (h : y.Plays s) : y.LeadsTo s := ⟨[], h⟩

/-- A move may be made first. -/
theorem LeadsTo.of_move {m : Move} (h : (y.move m).LeadsTo s) : y.LeadsTo s := by
  obtain ⟨moves, hmoves⟩ := h
  exact ⟨m :: moves, hmoves⟩

/-- Moves may be made one after the other. -/
theorem LeadsTo.then {s' : Scene} (h : y.LeadsTo s)
    (hnext : ∀ z : Shift, z.Plays s → z.LeadsTo s') : y.LeadsTo s' := by
  obtain ⟨moves, hmoves⟩ := h
  obtain ⟨moves', hmoves'⟩ := hnext _ hmoves
  refine ⟨moves ++ moves', ?_⟩
  rw [List.foldl_append]
  exact hmoves'

section Answers

/-- The task may be answered on the spot. -/
theorem PlaysBut.answerPrompt (h : y.PlaysBut s id) {p : Program Job.Result}
    (hid : y.tasks.state? id = some (.ready p)) {op : Ask} (hop : op.isPrompt = true)
    (reply : Except Failure op.Reply) (q : Program Job.Result) :
    PlaysBut { y with tasks := y.tasks.answer id ⟨op, reply⟩ q } s id := by
  have hgave : s.world.Gave ⟨op, reply⟩ := by
    cases op with
    | emit | enter | leave | spawn => trivial
    | _ => cases hop
  refine ⟨h.attended.answer hid (by simp) _ _, h.tasks.answer hgave q, h.roster, ?_, h.going⟩
  exact h.queued.moved hid (by simp) (state?_answer (lt_length_of_state? hid) _ _) (by simp)
    (fun c hc => state?_setState_of_ne y.tasks (Ne.symm hc) _) (fun _ _ => Iff.rfl) rfl

/-- The task may be answered by a move, as the world would have it; then it is no longer to look. -/
theorem PlaysBut.answer (h : y.PlaysBut s id) {op : Ask}
    {next : Except Failure op.Reply → Program Job.Result}
    (hid : y.tasks.state? id = some (.blocked op next)) {w : World} (hw : s.world.Keeps w)
    {reply : Except Failure op.Reply} (hgave : w.Gave ⟨op, reply⟩) {m : Move}
    (hm : y.move m = { y with
      due := y.due.filter (· != id)
      tasks := y.tasks.answer id ⟨op, reply⟩ (next reply) }) :
    (y.move m).PlaysBut { s with world := w } id := by
  have hattended := h.attended.move m
  rw [hm] at hattended ⊢
  refine ⟨hattended, (h.tasks.world hw).answer hgave (next reply), h.roster, ?_, h.going⟩
  refine h.queued.moved hid (by simp) (state?_answer (lt_length_of_state? hid) _ _) (by simp)
    (fun c hc => state?_setState_of_ne y.tasks (Ne.symm hc) _) (fun c hc => ?_) rfl
  simp [hc]

/-- What is answered on the spot is answered as in the scene, and a task that is started is kept
track of. -/
theorem PlaysBut.promptly (h : y.PlaysBut s id) (hid : id < y.tasks.parties.length) {op : Ask}
    (hop : op.isPrompt = true) : ∃ reply x, y.tasks.promptly id op = some (reply, x) ∧
      (s.answer op).1 = some reply ∧ (y.track x).PlaysBut (s.answer op).2 id := by
  obtain ⟨reply, x, hx, hanswer, hplays, hlt⟩ := h.tasks.promptly hid hop
  obtain ⟨-, -, hparties⟩ := promptly_eq_some hx
  have hattended : (y.track x).Attended :=
    h.attended.congr (.of_eq (waiters_track y x)) fun i => y.tasks.drains_promptly hx
  refine ⟨reply, x, hx, hanswer, ?_⟩
  cases op with
  | spawn name job =>
    obtain ⟨-, rfl⟩ := Prod.mk.inj (Option.some.inj hx)
    have hqueue : (s.answer (.spawn name job)).2.pool.queue =
        s.pool.queue ++ [.go y.tasks.parties.length] := by
      rw [h.tasks.count]
      rfl
    have hadd := h.queued.add (fun hgo => Nat.lt_irrefl _ (h.attended.lt_length hgo.2)) job
      (y.tasks.originOf id)
    rw [track_of_length_succ _ (length_parties_add ..)] at hattended ⊢
    refine ⟨hattended, hplays, ?_, ?_, fun r hr => ?_⟩
    · change y.roster.enter _ = s.pool.roster.enter _
      rw [h.roster, h.tasks.count]
    · rw [hqueue]
      refine hadd.congr (fun _ => Iff.rfl) rfl fun c => ?_
      -- The new task is not the one that is set aside.
      have hne : c = y.tasks.parties.length → c ≠ id := fun hc => hc ▸ Nat.ne_of_gt hid
      have hgoes : _ ↔ y.Goes c ∨ c = y.tasks.parties.length :=
        goes_add job (y.tasks.originOf id)
      change c ≠ id ∧ Goes { y with tasks := y.tasks.add job (y.tasks.originOf id) } c ↔ _
      rw [hgoes]
      tauto
    · change ((s.pool.add name job _ true).2.look id).map _ = _ at hr
      rw [Pool.look_add, if_neg (by rw [← h.tasks.count]; exact Nat.ne_of_lt hid)] at hr
      exact h.going r hr
  | emit | enter | leave =>
    -- Neither the tasks of the scene nor its roster are touched.
    have hlength : x.parties.length = y.tasks.parties.length :=
      hplays.count.trans h.tasks.count.symm
    have hall : x.parties = y.tasks.parties := List.ext_getElem? fun i => by
      by_cases hi : i < y.tasks.parties.length
      · exact hparties i hi
      · rw [List.getElem?_eq_none (by omega), List.getElem?_eq_none (by omega)]
    have hsame : ∀ c, x.state? c = y.tasks.state? c := fun c => by rw [state?, hall, state?]
    rw [track_of_length_eq _ hlength] at hattended ⊢
    refine ⟨hattended, hplays, h.roster, ?_, h.going⟩
    refine h.queued.congr (fun c => by rw [hsame]) rfl fun c => ?_
    rw [Goes, hsame]
    rfl
  | _ => cases hop

/-- A question that is not answered on the spot and that the scene has a reply to is answered by a
move. Whoever waits for all tasks uses its turn for that. -/
theorem PlaysBut.exists_move (h : y.PlaysBut s id) {op : Ask}
    {next : Except Failure op.Reply → Program Job.Result}
    (hid : y.tasks.state? id = some (.blocked op next)) (hdue : op = .drain → id ∈ y.due)
    {reply : Except Failure op.Reply} (hreply : (s.answer op).1 = some reply) : ∃ m, y.move m =
      { y with
        due := y.due.filter (· != id)
        tasks := y.tasks.answer id ⟨op, reply⟩ (next reply) } := by
  cases op with
  | join other =>
    obtain ⟨hnoticed, hresult⟩ := Option.ite_none_left_eq_some.1 hreply
    have hended := Pool.result?_eq_some hresult
    have hne : other ≠ id := by
      rintro rfl
      exact h.going reply hended
    rw [← h.tasks.others other hne, ← state?_eq_look] at hended
    rw [h.attended.filter_due hid (by simp)]
    exact ⟨.join id, move_join hid hended (by simpa [h.roster] using hnoticed)⟩
  | drain =>
    obtain ⟨hnone, hok⟩ := Option.ite_none_right_eq_some.1 hreply
    obtain rfl := Option.some.inj hok
    refine ⟨.look id, move_look hid (hdue rfl) ?_⟩
    rw [h.roster]
    exact hnone
  | _ =>
    rw [h.attended.filter_due hid (by simp)]
    exact ⟨.reply id (replying _ reply), move_reply hid rfl reply⟩

end Answers

section Turns

/-- A task that pauses goes on as it does in the scene, once that is so for every reply. -/
theorem PlaysBut.resume (h : y.PlaysBut s id) {op : Ask}
    {next : Except Failure op.Reply → Program Job.Result} (hop : op.isPrompt = false)
    (hid : y.tasks.state? id = some (.blocked op next)) (hdue : op = .drain → id ∈ y.due)
    (hnext : ∀ reply {y : Shift} {s : Scene}, y.PlaysBut s id →
      y.tasks.state? id = some (.ready (next reply)) →
      (y.move (.go id)).LeadsTo (Scene.advance id (next reply) s)) :
    y.LeadsTo (Scene.advance id (.ask op next) s) := by
  obtain ⟨w, hw, hkeeps⟩ := Scene.answer_keeps hop s
  cases hanswer : (s.answer op).1 with
  | none =>
    -- Both pause. Whoever waits for all tasks has found some.
    have hscene : s.answer op = (none, { s with world := w }) := Prod.ext hanswer hw
    rw [Scene.advance, hscene]
    have hplays := (h.tasks.world hkeeps).plays hid
    have htasks : y.tasks.Plays
        { s with world := w, pool := s.pool.block id op next } :=
      ⟨hplays.setup, hplays.inFlight, hplays.count, hplays.look, hplays.gave⟩
    have hqueued := h.queued.paused hid
    cases op with
    | drain =>
      have hsome : y.roster.pending ≠ 0 := by
        intro hnone
        rw [h.roster] at hnone
        cases (if_pos hnone).symm.trans hanswer
      have hattended := h.attended.move (.look id)
      refine LeadsTo.of_move (m := .look id) (Plays.leadsTo ?_)
      rw [move_look_of_pending hid (hdue rfl) hsome] at hattended ⊢
      refine ⟨hattended, htasks, ?_, hqueued.congr (fun _ => Iff.rfl) rfl fun _ => Iff.rfl⟩
      change y.roster.gather id = s.pool.roster.gather id
      rw [h.roster]
    | _ =>
      rw [h.attended.filter_due hid (by simp)] at hqueued
      exact Plays.leadsTo ⟨h.attended, htasks, h.roster, hqueued⟩
  | some reply =>
    -- The scene goes on at once, with the reply that the world gives.
    have hscene : s.answer op = (some reply, { s with world := w }) := Prod.ext hanswer hw
    have hgave : w.Gave ⟨op, reply⟩ := (Scene.answer_gave hanswer).keeps
      ⟨hkeeps.scheduling, hkeeps.minSize, hkeeps.fingerprints⟩
    obtain ⟨m, hm⟩ := h.exists_move hid hdue hanswer
    have hready : (y.move m).tasks.state? id = some (.ready (next reply)) := by
      rw [hm]
      exact state?_answer (lt_length_of_state? hid) ⟨op, reply⟩ (next reply)
    rw [Scene.advance, hscene]
    refine LeadsTo.of_move (m := m) (LeadsTo.of_move (m := .go id) ?_)
    exact hnext reply (h.answer hid hkeeps hgave hm) hready

/-- A task that goes on and pauses stands where it pauses. If it is to wait for all tasks, it has a
turn to look. -/
theorem PlaysBut.pause (h : y.PlaysBut s id) {op : Ask}
    {next : Except Failure op.Reply → Program Job.Result} (hop : op.isPrompt = false)
    (hready : y.tasks.state? id = some (.ready (.ask op next))) :
    (y.move (.go id)).PlaysBut s id ∧
      (y.move (.go id)).tasks.state? id = some (.blocked op next) ∧
      (op = .drain → id ∈ (y.move (.go id)).due) := by
  have hblocked : ((y.tasks.setState id (.blocked op next)).note (.asked id op)).state? id =
      some (.blocked op next) := state?_setState (lt_length_of_state? hready) _
  have hmove : y.move (.go id) = Shift.arrive
      { y with tasks := (y.tasks.setState id (.blocked op next)).note (.asked id op) } id := by
    rw [move_go hready, proceed_pause hop, track_of_length_eq y (by simp)]
  have hattended := h.attended.move (.go id)
  have hstands : (y.move (.go id)).tasks.state? id = some (.blocked op next) := by
    rw [hmove, tasks_arrive]
    exact hblocked
  rw [hmove] at hattended hstands ⊢
  refine ⟨⟨hattended, ?_, ?_, ?_, h.going⟩, ?_, ?_⟩
  · rw [tasks_arrive]
    exact (h.tasks.moved _).asked id op
  · rw [roster_arrive]
    exact h.roster
  · refine h.queued.moved hready (by simp) hstands (by simp) (fun c hc => ?_) (fun c hc => ?_)
      (noticed_arrive _ _)
    · rw [tasks_arrive]
      exact state?_setState_of_ne y.tasks (Ne.symm hc) _
    · simp [mem_due_arrive, hc]
  · exact hstands
  · rintro rfl
    exact (mem_due_arrive _ id).2 (Or.inr ⟨rfl, next, hblocked⟩)

/-- A task of a scene that goes on does so in moves. -/
theorem PlaysBut.advance {p : Program Job.Result} (h : y.PlaysBut s id)
    (hready : y.tasks.state? id = some (.ready p)) :
    (y.move (.go id)).LeadsTo (Scene.advance id p s) := by
  -- The scene goes on without a pause wherever its world has a reply at hand. A shift pauses there,
  -- is given that reply and goes on, which is where the moves come from.
  induction p generalizing s y with
  | done r =>
    have hid := lt_length_of_state? hready
    have hmove : y.move (.go id) = { y with tasks := y.tasks.setState id (.ended r) } := by
      rw [move_go hready, proceed, track_of_length_eq _ (length_parties_setState ..),
        arrive_of_not_drains]
      exact not_drains_of_state? _ (state?_setState hid _) (by simp)
    have htasks : (y.tasks.setState id (.ended r)).Plays { s with pool := s.pool.finish id r } :=
      (h.tasks.setState (.ended r)).congr rfl rfl rfl
    have hattended := h.attended.move (.go id)
    have hdue := h.attended.not_mem_due hready (by simp)
    rw [hmove] at hattended ⊢
    exact Plays.leadsTo ⟨hattended, htasks, h.roster, h.queued.finish hid hdue r⟩
  | ask op next ih =>
    cases hop : op.isPrompt with
    | true =>
      have hid := lt_length_of_state? hready
      obtain ⟨reply, x, hx, hanswer, hplays⟩ := h.promptly hid hop
      obtain ⟨-, hlength, hparties⟩ := promptly_eq_some hx
      have hscene : s.answer op = (some reply, (s.answer op).2) := Prod.ext hanswer rfl
      have hready' : x.state? id = some (.ready (.ask op next)) := by
        rw [state?, hparties id hid]
        exact hready
      have hnext := state?_answer (lt_length_of_state? hready') ⟨op, reply⟩ (next reply)
      -- The task goes on in the same move.
      have hmove : y.move (.go id) =
          (y.track (x.answer id ⟨op, reply⟩ (next reply))).move (.go id) := by
        rw [move_go hready, proceed, hx, move_go hnext]
        congr 1
        refine (track_track _ ?_ (steps_length_le (proceed_steps hnext))).symm
        rw [length_parties_answer]
        exact hlength
      rw [hmove, Scene.advance, hscene, track_answer]
      exact ih reply (hplays.answerPrompt hready' hop reply _) hnext
    | false =>
      obtain ⟨hplays, hblocked, hdue⟩ := h.pause hop hready
      exact hplays.resume hop hblocked hdue fun reply _ _ => ih reply

/-- A task that is blocked, and not to wait for all tasks, has no turn coming. -/
theorem Plays.not_goes (h : y.Plays s) {op : Ask}
    {next : Except Failure op.Reply → Program Job.Result}
    (hid : y.tasks.state? id = some (.blocked op next)) (hop : op ≠ .drain) : ¬y.Goes id := by
  rintro (⟨p, hp⟩ | hdue)
  · rw [hid] at hp
    cases hp
  · rw [← h.attended.filter_due hid hop] at hdue
    simp at hdue

/-- A task that is blocked in a scene, and not to wait for all tasks, may be given a reply there and
go on later. -/
theorem Plays.wake (h : y.Plays s) {op : Ask} {next : Except Failure op.Reply → Program Job.Result}
    (hid : y.tasks.state? id = some (.blocked op next)) (hop : op ≠ .drain) {w : World}
    (hw : s.world.Keeps w) {reply : Except Failure op.Reply} (hgave : w.Gave ⟨op, reply⟩) {m : Move}
    (hm : y.move m = { y with
      due := y.due.filter (· != id)
      tasks := y.tasks.answer id ⟨op, reply⟩ (next reply) }) :
    y.LeadsTo { s with world := w, pool := s.pool.wake id (next reply) } := by
  have hbut := h.but hid (by simp) (h.not_goes hid hop)
  obtain ⟨-, -, hcount, hlook, -⟩ := hbut.tasks.setState (.ready (next reply))
  have hready := state?_answer (lt_length_of_state? hid) ⟨op, reply⟩ (next reply)
  obtain ⟨hattended, htasks, hroster, hqueued, -⟩ := hbut.answer hid hw hgave hm
  refine LeadsTo.of_move (m := m) (Plays.leadsTo ?_)
  rw [hm] at hattended htasks hroster hqueued ⊢
  refine ⟨hattended, ⟨htasks.setup, htasks.inFlight, hcount, hlook, htasks.gave⟩, hroster, ?_⟩
  have hmore := hqueued.enqueue (List.pairwise_singleton _ id)
    fun c hc hgo => hgo.1 (List.mem_singleton.1 hc)
  refine hmore.congr (fun _ => Iff.rfl) rfl fun c => ?_
  rw [List.mem_singleton]
  by_cases hc : c = id
  · subst hc
    exact iff_of_true (Or.inl ⟨_, hready⟩) (Or.inr rfl)
  · rw [or_iff_left hc, and_iff_right hc]

/-- Tasks for which what they waited for has come about are given a reply. -/
theorem Plays.rouse (h : y.Plays s) (id : TaskId) :
    y.LeadsTo { s with pool := s.pool.rouse id } := by
  unfold Pool.rouse
  split
  · next program hresume =>
    obtain ⟨op, next, reply, hop, hstate, rfl, hgave, hanswer⟩ := Pool.resume?_eq_some hresume
    have hid : y.tasks.state? id = some (.blocked op next) := by
      rw [state?_eq_look, h.tasks.look]
      exact hstate
    have hbut := h.but hid (by simp) (h.not_goes hid hop)
    obtain ⟨m, hm⟩ := hbut.exists_move hid (fun heq => absurd heq hop) (hanswer s rfl)
    exact h.wake hid hop (.refl s.world) (hgave s.world) hm
  · exact h.leadsTo

theorem Plays.rouseAll (h : y.Plays s) : y.LeadsTo { s with pool := s.pool.rouseAll } := by
  unfold Pool.rouseAll
  -- Who is waiting is settled before the first of them is given a reply.
  generalize s.pool.waiting = ids
  induction ids generalizing y s with
  | nil => exact h.leadsTo
  | cons id ids ih => exact (h.rouse id).then fun z hz => ih hz

/-- The end of a task is noticed. Those who have nothing left to wait for are to look again. -/
theorem Plays.notice {queue : List Turn} (h : y.Plays s)
    (hqueue : s.pool.queue = .retire id :: queue) :
    (y.move (.notice id)).Plays
      { s with pool := { s.pool with
        roster := (s.pool.roster.notice id).2
        queue := queue ++ (s.pool.roster.notice id).1.map .go } } := by
  have hqueued := h.queued
  rw [hqueue] at hqueued
  obtain ⟨r, hr⟩ := (hqueued.ended id).2 (Or.inr List.mem_cons_self)
  have hmove : y.move (.notice id) =
      { y with
        roster := (y.roster.notice id).2
        due := y.due ++ (y.roster.notice id).1
        noticed := y.noticed ++ [id] } := by
    rw [move, hr]
  have hattended := h.attended.move (.notice id)
  rw [hmove] at hattended ⊢
  refine ⟨hattended, h.tasks.congr rfl rfl rfl, congrArg (fun r => (r.notice id).2) h.roster, ?_⟩
  have hrest : Queued
      { y with
        roster := (y.roster.notice id).2
        due := y.due ++ (y.roster.notice id).1
        noticed := y.noticed ++ [id] } queue y.Goes := by
    refine ⟨fun c => ?_, fun c => ?_, hqueued.once⟩
    · rw [hqueued.ended c, List.mem_cons, List.mem_append, List.mem_singleton, Turn.retire.injEq]
      exact or_assoc.symm
    · rw [← hqueued.goers c, List.mem_cons, or_iff_right (by simp)]
  rw [← h.roster]
  -- Whoever is told had no turn coming, as nobody is told twice.
  have hdue := (List.nodup_append.1 hattended.nodup).2.1
  obtain ⟨-, hnew, hapart⟩ := List.nodup_append.1 hdue
  refine (hrest.enqueue hnew fun c hc hgoes => ?_).congr (fun _ => Iff.rfl) rfl fun c => ?_
  · rcases hgoes with ⟨p, hp⟩ | hold
    · exact hattended.not_mem_due hp (by simp) (List.mem_append_right _ hc)
    · exact hapart c hold c hc rfl
  · exact (or_congr_right List.mem_append).trans or_assoc.symm

/-- The end of a task is noticed, and those who wait are told. -/
theorem Plays.retire {queue : List Turn} (h : y.Plays s)
    (hqueue : s.pool.queue = .retire id :: queue) :
    y.LeadsTo { s with pool := Pool.retire { s.pool with queue } id } := by
  refine LeadsTo.of_move (m := .notice id) ?_
  refine (h.notice hqueue).rouseAll.then fun z hz => Plays.leadsTo ?_
  -- It makes no difference whether those who wait for all tasks are told before the others.
  obtain ⟨turns, hturns⟩ :=
    Pool.exists_rouseAll { s.pool with roster := (s.pool.roster.notice id).2 }
  have hfirst := hturns (queue ++ (s.pool.roster.notice id).1.map .go)
  have hlast := hturns queue
  dsimp only at hfirst hlast
  rw [hfirst] at hz
  unfold Pool.retire
  dsimp only
  rw [hlast]
  refine hz.congr rfl rfl rfl rfl ?_
  rw [List.append_assoc, List.append_assoc]
  exact List.perm_append_comm.append_left _

/-- The task that has the first turn may be set aside for it. -/
theorem Plays.aside {queue : List Turn} (h : y.Plays s)
    (hqueue : s.pool.queue = .go id :: queue) :
    y.Goes id ∧ y.PlaysBut { s with pool := { s.pool with queue } } id := by
  have hqueued := h.queued
  rw [hqueue] at hqueued
  obtain ⟨hgoes, hrest⟩ := hqueued.pop
  obtain ⟨hsetup, hflight, hcount, hothers, hjob, hgave⟩ := h.tasks.but id
  refine ⟨hgoes, h.attended, ⟨hsetup, hflight, hcount, hothers, hjob, hgave⟩, h.roster, hrest,
    fun r hr => ?_⟩
  have hended : y.tasks.state? id = some (.ended r) := by
    rw [state?_eq_look, h.tasks.look]
    exact hr
  rcases hgoes with ⟨p, hp⟩ | hdue
  · rw [hended] at hp
    cases hp
  · exact h.attended.not_mem_due hended (by simp) hdue

/-- The first turn that is coming is taken in moves. -/
theorem Plays.take {turn : Turn} {queue : List Turn} (h : y.Plays s)
    (hqueue : s.pool.queue = turn :: queue) :
    y.LeadsTo (Scene.take { s with pool := { s.pool with queue } } turn) := by
  cases turn with
  | go id =>
    obtain ⟨hgoes, hbut⟩ := h.aside hqueue
    unfold Scene.take
    dsimp only
    rw [← h.tasks.state?]
    rcases hgoes with ⟨p, hp⟩ | hdue
    · rw [hp]
      exact (hbut.advance hp).of_move
    · obtain ⟨next, hnext⟩ := h.attended.drains_of_due hdue
      rw [hnext]
      obtain ⟨hattended, ⟨hsetup, hflight, hcount, hothers, hjob, hgave⟩, hroster, hqueued,
        hgoing⟩ :=
        hbut
      have hwaits : y.PlaysBut
          { s with pool := { s.pool with queue, waiting := s.pool.waiting.erase id } } id :=
        ⟨hattended, ⟨hsetup, hflight, hcount, hothers, hjob, hgave⟩, hroster, hqueued, hgoing⟩
      exact hwaits.resume rfl hnext (fun _ => hdue) fun reply y s hy hready => hy.advance hready
  | retire id => exact h.retire hqueue

theorem Plays.settleWithin (h : y.Plays s) (bound : Nat) :
    y.LeadsTo (Scene.settleWithin bound s) := by
  induction bound generalizing y s with
  | zero => exact h.leadsTo
  | succ bound ih =>
    unfold Scene.settleWithin
    split
    · exact h.leadsTo
    · next turn queue hqueue => exact (h.take hqueue).then fun z hz => ih hz

theorem Plays.settle (h : y.Plays s) : y.LeadsTo s.settle := h.settleWithin _

end Turns

section Doings

theorem Plays.answerHeld (h : y.Plays s) (id : TaskId) : y.LeadsTo (s.answerHeld id) := by
  unfold Scene.answerHeld
  split
  · next name params next hstate =>
    have hid : y.tasks.state? id = some (.blocked (.request name params) next) := by
      rw [h.tasks.state?, hstate]
    have hmove := move_reply hid rfl (World.answer name s.world).1
    rw [← h.attended.filter_due hid (by simp)] at hmove
    exact (h.wake hid (by simp) (Act.keeps_answer name s.world) trivial hmove).then
      fun z hz => hz.settle
  · exact h.leadsTo

theorem Plays.release (h : y.Plays s) (name : String) (count : Option Nat) :
    y.LeadsTo (s.release name count) := by
  have hall : ∀ (ids : List TaskId) {y : Shift} {s : Scene}, y.Plays s →
      y.LeadsTo (ids.foldl Scene.answerHeld s) := by
    intro ids
    induction ids with
    | nil => exact fun h => h.leadsTo
    | cons id ids ih => exact fun h => (h.answerHeld id).then fun z hz => ih hz
  exact hall _ (h.congr rfl rfl rfl rfl (.refl _))

theorem Plays.openGate (h : y.Plays s) (gate : String) : y.LeadsTo (s.openGate gate) := by
  have hopen : y.Plays { s with pool := { s.pool with gates := gate :: s.pool.gates } } :=
    h.congr rfl rfl rfl rfl (.refl _)
  exact hopen.rouseAll

/-- A task may be started by the host, by itself or by way of the scheduler. -/
theorem Plays.start (h : y.Plays s) (name : String) (job : Job) (tracked : Bool) :
    (y.move (.start job tracked)).Plays (s.start name job tracked).2 := by
  have htasks := h.tasks.start name job tracked
  have hone : (y.tasks.move (.start job)).parties.length = y.tasks.parties.length + 1 :=
    length_parties_add ..
  have hadd := h.queued.add (fun hgo => Nat.lt_irrefl _ (h.attended.lt_length hgo)) job
    y.tasks.parties.length
  have hqueued : Queued { y with tasks := y.tasks.move (.start job) } _
      (Goes { y with tasks := y.tasks.move (.start job) }) :=
    hadd.congr (fun _ => Iff.rfl) rfl fun _ => goes_add job _
  have hqueue : (s.start name job tracked).2.pool.queue =
      s.pool.queue ++ [.go y.tasks.parties.length] := by
    rw [h.tasks.count]
    rfl
  have hattended := h.attended.move (.start job tracked)
  rw [← hqueue] at hqueued
  cases tracked with
  | false => exact ⟨hattended, htasks, h.roster, hqueued⟩
  | true =>
    change (y.track _).Attended at hattended
    change (y.track _).Plays _
    rw [track_of_length_succ _ hone] at hattended ⊢
    refine ⟨hattended, htasks, ?_, hqueued.congr (fun _ => Iff.rfl) rfl fun _ => Iff.rfl⟩
    change y.roster.enter _ = s.pool.roster.enter _
    rw [h.roster, h.tasks.count]

/-- The world may change in what tasks do not share. -/
theorem Plays.world (h : y.Plays s) {w : World} (hw : s.world.Keeps w) :
    y.Plays { s with world := w } := ⟨h.attended, h.tasks.world hw, h.roster, h.queued⟩

/-- An activation has the service started and is started itself by a move. -/
theorem Plays.activate (h : y.Plays s) (options : Option Options) :
    y.LeadsTo (Scene.run (Activation.activate options) s).2 := by
  have hstarted := h.world (Act.keeps_startService s.world)
  change y.LeadsTo (Scene.run ((Program.done (World.startService s.world).1).bind fun _ =>
    Program.spawn "bootstrap" (.activation options))
      { s with world := (World.startService s.world).2 }).2
  cases (World.startService s.world).1 with
  | error e => exact hstarted.leadsTo
  | ok _ =>
    have hspawned := hstarted.world (World.keeps_afterAll _
      ((World.startService s.world).2.scheduling.spawning "bootstrap"))
    exact LeadsTo.of_move (hspawned.start "bootstrap" (.activation options) true).leadsTo

end Doings

end Shift

namespace Scene

/-- A scene that starts out without tasks and claims, and to which things are done: tasks are
started, they take turns, responses are held back and released, gates are opened, and the world
around the tasks changes. -/
inductive Staged : Scene → Prop where
  /-- There are no tasks and no claims. -/
  | opening {s : Scene} (hpool : s.pool = {}) (hfree : s.world.inFlight = []) : Staged s
  /-- A task is started. -/
  | start {s : Scene} (h : Staged s) (name : String) (job : Job) (tracked : Bool) :
    Staged (s.start name job tracked).2
  /-- An activation is started along with the service. -/
  | activate {s : Scene} (h : Staged s) (options : Option Options) :
    Staged (Scene.run (Activation.activate options) s).2
  /-- Turns are taken. -/
  | settle {s : Scene} (h : Staged s) (bound : Nat) : Staged (settleWithin bound s)
  /-- Requests are held back. -/
  | hold {s : Scene} (h : Staged s) (name : String) : Staged (s.hold name)
  /-- Requests that were held back are answered. -/
  | release {s : Scene} (h : Staged s) (name : String) (count : Option Nat) :
    Staged (s.release name count)
  /-- A gate is opened. -/
  | openGate {s : Scene} (h : Staged s) (gate : String) : Staged (s.openGate gate)
  /-- The world changes in what tasks do not share. -/
  | change {s : Scene} (h : Staged s) {w : World} (hw : s.world.Keeps w) :
    Staged { s with world := w }

/-- What is done to a scene that is played leads to one that is played. -/
theorem exists_moves {s s' : Scene} {moves : List Shift.Move}
    (h : (Shift.run s.setup moves).LeadsTo s') :
    ∃ moves', (Shift.run s'.setup moves').Plays s' := by
  obtain ⟨moves', hplays⟩ := h
  rw [Shift.run, ← List.foldl_append] at hplays
  have hsetup : s.setup = s'.setup :=
    (Shift.run_reachable s.setup (moves ++ moves')).orderly.setup.symm.trans hplays.tasks.setup
  rw [← hsetup]
  exact ⟨moves ++ moves', hplays⟩

/-- Every scene is played by a shift. -/
theorem Staged.shifts {s : Scene} (h : Staged s) :
    ∃ moves, (Shift.run s.setup moves).Plays s := by
  induction h with
  | @opening s hpool hfree =>
    refine ⟨[], Shift.run_attended s.setup [],
      ⟨rfl, hfree.symm, by rw [hpool]; rfl, fun i => by rw [hpool]; rfl, fun i a ha => by cases ha⟩,
      by rw [hpool]; rfl, ?_⟩
    rw [hpool]
    refine ⟨fun c => iff_of_false ?_ ?_, fun c => iff_of_false List.not_mem_nil ?_, List.nodup_nil⟩
    · rintro ⟨r, hr⟩
      cases hr
    · rintro (hc | hc) <;> cases hc
    · rintro (⟨p, hp⟩ | hc)
      · cases hp
      · cases hc
  | start h name job tracked ih =>
    obtain ⟨moves, hmoves⟩ := ih
    exact exists_moves (Shift.LeadsTo.of_move (hmoves.start name job tracked).leadsTo)
  | activate h options ih =>
    obtain ⟨moves, hmoves⟩ := ih
    exact exists_moves (hmoves.activate options)
  | settle h bound ih =>
    obtain ⟨moves, hmoves⟩ := ih
    exact exists_moves (hmoves.settleWithin bound)
  | hold h name ih =>
    obtain ⟨moves, hmoves⟩ := ih
    exact ⟨moves, hmoves.congr rfl rfl rfl rfl (.refl _)⟩
  | release h name count ih =>
    obtain ⟨moves, hmoves⟩ := ih
    exact exists_moves (hmoves.release name count)
  | openGate h gate ih =>
    obtain ⟨moves, hmoves⟩ := ih
    exact exists_moves (hmoves.openGate gate)
  | change h hw ih =>
    obtain ⟨moves, hmoves⟩ := ih
    exact ⟨moves, hmoves.world hw⟩

/-- Every scene is played by an interleaving. -/
theorem Staged.plays {s : Scene} (h : Staged s) :
    ∃ moves, (Interleaving.run s.setup moves).Plays s := by
  obtain ⟨moves, hmoves⟩ := h.shifts
  obtain ⟨ms, hms⟩ := Shift.run_tasks s.setup moves
  refine ⟨ms, ?_⟩
  rw [← hms]
  exact hmoves.tasks

/-- Whoever waits for all tasks of a scene waits for some that the scheduler keeps track of, or it
has a turn coming. -/
theorem Staged.waits {s : Scene} (h : Staged s) {id : TaskId}
    {next : Except Failure Unit → Program Job.Result}
    (hid : s.pool.tasks[id]?.map Task.state = some (.blocked .drain next)) :
    (∃ group, (id, group) ∈ s.pool.roster.gathers ∧ group ≠ [] ∧ group ⊆ s.pool.roster.tracked) ∨
      .go id ∈ s.pool.queue := by
  obtain ⟨moves, hplays⟩ := h.shifts
  rw [← hplays.tasks.state?] at hid
  rw [← hplays.roster, hplays.queued.goers]
  exact (hplays.attended.waits (Shift.run_kept _ moves) ⟨next, hid⟩).imp_right Or.inr

/-- Once no turns are left, every task that the scheduler keeps track of waits for something. -/
theorem Staged.blocked_of_tracked {s : Scene} (h : Staged s) (hsettled : s.pool.queue = [])
    {c : TaskId} (hc : c ∈ s.pool.roster.tracked) :
    ∃ op next, s.pool.tasks[c]?.map Task.state = some (.blocked op next) := by
  obtain ⟨moves, hplays⟩ := h.shifts
  have hkept := Shift.run_kept s.setup moves
  have hqueued := hplays.queued
  rw [hsettled] at hqueued
  rw [← hplays.roster, hkept.tracked, List.mem_filter, decide_eq_true_iff] at hc
  rw [← hplays.tasks.state?]
  cases hstate : (Shift.run s.setup moves).tasks.state? c with
  | none =>
    rw [Interleaving.state?, List.getElem?_eq_getElem (hkept.known c hc.1)] at hstate
    cases hstate
  | some state =>
    cases state with
    | ready p => exact absurd ((hqueued.goers c).2 (Or.inl ⟨p, hstate⟩)) List.not_mem_nil
    | blocked op next => exact ⟨op, next, rfl⟩
    | ended r =>
      exact absurd ((hqueued.ended c).1 ⟨r, hstate⟩) (not_or_intro hc.2 List.not_mem_nil)

/-- In every scene no key is claimed twice, and once all activations have ended, none is claimed. -/
theorem Staged.inFlight {s : Scene} (h : Staged s) : s.world.inFlight.Nodup ∧
    ((∀ t ∈ s.pool.tasks, t.job.isActivation = true → ∃ r, t.state = .ended r) →
      s.world.inFlight = []) := by
  obtain ⟨moves, hplays⟩ := h.plays
  have hreachable := Interleaving.run_reachable s.setup moves
  rw [← hplays.inFlight]
  refine ⟨hreachable.claims.nodup, fun hended => hreachable.inFlight_eq_nil fun p hp hjob => ?_⟩
  obtain ⟨i, hi⟩ := List.getElem?_of_mem hp
  have hlook := hplays.look i
  unfold Interleaving.look Pool.look at hlook
  rw [hi, Option.map_some] at hlook
  obtain ⟨t, ht, heq⟩ := Option.map_eq_some_iff.1 hlook.symm
  obtain ⟨hjobs, hstates⟩ := Prod.mk.inj heq
  obtain ⟨r, hr⟩ := hended t (List.mem_of_getElem? ht) (by rw [hjobs]; exact hjob)
  exact ⟨r, hstates.symm.trans hr⟩

end Scene

end IndexSync
