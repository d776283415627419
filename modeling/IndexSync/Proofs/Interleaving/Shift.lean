import IndexSync.Proofs.Interleaving.History

/-!
# Shifts

Tasks that take turns in any order, together with the roster of the scheduler that starts them.
Whoever waits for another task is answered only once the end of that task has been noticed. Whoever
waits for all tasks looks at the roster when it comes to do so; from then on it waits for the tasks
that it found there, and it has a turn to look again only once the last of their ends is noticed.
All else is as in an interleaving, so every shift is one (`Shift.run_tasks`).

* `Shift.Kept` — what holds of the roster, whatever happened: it has exactly the tasks that were
  started and whose end has not been noticed, and whoever waits for all tasks waits for some of
  those;
* `Shift.run_kept` — this holds of every shift;
* `Shift.Kept.look_iff` — whoever waits for all tasks and looks is answered exactly if there are
  none.
-/

namespace IndexSync

/-- A question that waits for other tasks. -/
def Ask.isAwait : Ask → Bool
  | .join _ => true
  | .drain => true
  | _ => false

/-- Tasks that take turns, with the roster of the scheduler that starts them. -/
structure Shift where
  /-- The tasks. -/
  tasks : Interleaving
  /-- The tasks that the scheduler keeps track of. -/
  roster : Roster := {}
  /-- Those who wait for all tasks and have a turn coming to look whether there are any. -/
  due : List TaskId := []
  /-- The tasks that the scheduler has started, in order. -/
  started : List TaskId := []
  /-- The tasks whose end was noticed, in order. -/
  noticed : List TaskId := []

namespace Shift

/-- A choice that is left open: who goes on, what the replies are, and when ends are noticed. -/
inductive Move where
  /-- The host starts a task, by itself or by way of the scheduler. -/
  | start (job : Job) (tracked : Bool)
  /-- A task that is ready goes on until it pauses or ends. -/
  | go (task : TaskId)
  /-- A task that pauses, and not for other tasks, is answered. -/
  | reply (task : TaskId) (replies : (op : Ask) → Except Failure op.Reply)
  /-- A task that waits for another one takes over how that one ended. -/
  | join (task : TaskId)
  /-- The end of a task is noticed. -/
  | notice (task : TaskId)
  /-- A task that waits for all tasks and has a turn to do so looks whether there are any. -/
  | look (task : TaskId)

/-- The tasks have moved on; the scheduler keeps track of those that are new. -/
def track (y : Shift) (tasks : Interleaving) : Shift :=
  let new := List.range' y.tasks.parties.length (tasks.parties.length - y.tasks.parties.length)
  { y with tasks, roster := new.foldl Roster.enter y.roster, started := y.started ++ new }

/-- A task has paused. If it is to wait for all tasks, it has a turn to look whether there are any.
-/
def arrive (y : Shift) (id : TaskId) : Shift :=
  match y.tasks.state? id with
  | some (.blocked .drain _) => { y with due := y.due ++ [id] }
  | _ => y

/-- Make a move. One that does not fit changes nothing. -/
def move (y : Shift) : Move → Shift
  | .start job tracked =>
    if tracked then y.track (y.tasks.move (.start job))
    else { y with tasks := y.tasks.move (.start job) }
  | .go id =>
    match y.tasks.state? id with
    | some (.ready _) => (y.track (y.tasks.move (.go id))).arrive id
    | _ => y
  | .reply id replies =>
    match y.tasks.state? id with
    | some (.blocked op _) =>
      if op.isAwait then y else { y with tasks := y.tasks.move (.reply id replies) }
    | _ => y
  | .join id =>
    match y.tasks.state? id with
    | some (.blocked (.join other) next) =>
      match y.tasks.state? other with
      | some (.ended r) =>
        if other ∈ y.roster.tracked then y
        else { y with tasks := y.tasks.answer id ⟨.join other, r⟩ (next r) }
      | _ => y
    | _ => y
  | .notice id =>
    match y.tasks.state? id with
    | some (.ended _) =>
      -- Those who have nothing left to wait for are to look again.
      let (due, roster) := y.roster.notice id
      { y with roster, due := y.due ++ due, noticed := y.noticed ++ [id] }
    | _ => y
  | .look id =>
    match y.tasks.state? id with
    | some (.blocked .drain next) =>
      if id ∈ y.due then
        let due := y.due.filter (· != id)
        if y.roster.pending = 0 then
          { y with due, tasks := y.tasks.answer id ⟨.drain, .ok ()⟩ (next (.ok ())) }
        else { y with due, roster := y.roster.gather id }
      else y
    | _ => y

/-- The state after moves in order. -/
def run (s : Setup) (moves : List Move) : Shift := moves.foldl move { tasks := { setup := s } }

theorem run_append (s : Setup) (moves : List Move) (m : Move) :
    run s (moves ++ [m]) = (run s moves).move m := by
  simp [run]

end Shift

namespace Interleaving

variable {x y : Interleaving} {id : TaskId}

open Classical in
/-- The replies that give a chosen one to a chosen question. -/
noncomputable def replying (op : Ask) (reply : Except Failure op.Reply) (o : Ask) :
    Except Failure o.Reply :=
  if h : o = op then h ▸ reply else .error .nothingToSave

/-- A task that pauses may be given any reply. -/
theorem move_replying {op : Ask} {next : Except Failure op.Reply → Program Job.Result}
    (h : x.state? id = some (.blocked op next)) (reply : Except Failure op.Reply) :
    x.move (.reply id (replying op reply)) = x.answer id ⟨op, reply⟩ (next reply) := by
  have hreply : replying op reply op = reply := dif_pos rfl
  rw [move, h]
  dsimp only
  rw [hreply]

/-- A task that has not ended is another one than a task that has. -/
theorem ne_of_ended {c : TaskId} {state : Task.State} {r : Except Failure Job.Result}
    (hid : x.state? id = some state) (hstate : ∀ r, state ≠ .ended r)
    (hc : x.state? c = some (.ended r)) : id ≠ c := by
  rintro rfl
  rw [hc, Option.some.injEq] at hid
  exact hstate r hid.symm

/-- Tasks that have ended have ended for good, and are answered nothing any more. -/
theorem Step.ended (h : Step x y) {c : TaskId} {r : Except Failure Job.Result}
    (hc : x.state? c = some (.ended r)) :
    y.state? c = some (.ended r) ∧ y.dialogue c = x.dialogue c := by
  -- The task that moves is not one that has ended.
  have hset : ∀ {i : TaskId} {state : Task.State} (z : Interleaving) (state' : Task.State),
      x.state? i = some state → (∀ r, state ≠ .ended r) → z.state? c = some (.ended r) →
      (z.setState i state').state? c = some (.ended r) := by
    intro i state z state' hi hstate hz
    rw [state?_setState_of_ne z (ne_of_ended hi hstate hc)]
    exact hz
  cases h with
  | start job => exact ⟨state?_add hc job _, rfl⟩
  | tell hid => exact ⟨hset x _ hid (by simp) hc, by simp [ne_of_ended hid (by simp) hc]⟩
  | claim hid _ =>
    exact ⟨hset (x.setInFlight _) _ hid (by simp) hc, by simp [ne_of_ended hid (by simp) hc]⟩
  | refuse hid _ => exact ⟨hset x _ hid (by simp) hc, by simp [ne_of_ended hid (by simp) hc]⟩
  | release hid =>
    exact ⟨hset (x.setInFlight _) _ hid (by simp) hc, by simp [ne_of_ended hid (by simp) hc]⟩
  | spawn hid =>
    exact ⟨hset (x.add _ _) _ hid (by simp) (state?_add hc _ _),
      by simp [ne_of_ended hid (by simp) hc]⟩
  | pause hid _ => exact ⟨hset x _ hid (by simp) hc, by simp⟩
  | reply hid _ => exact ⟨hset x _ hid (by simp) hc, by simp [ne_of_ended hid (by simp) hc]⟩
  | finish hid => exact ⟨hset x _ hid (by simp) hc, rfl⟩

/-- What a task was answered stays on record. -/
theorem steps_dialogue_initial (hsteps : Relation.ReflTransGen Step x y) (i : TaskId) :
    x.dialogue i <+: y.dialogue i := by
  induction hsteps with
  | refl => exact List.prefix_refl _
  | @tail y z _ hstep ih =>
    refine ih.trans ?_
    rcases hstep.moments with hsame | ⟨id, a, hm⟩ | ⟨id, op, next, hm, -, -⟩
    · have hdialogue : z.dialogue i = y.dialogue i := congrArg (List.filterMap _) hsame
      exact hdialogue ▸ List.prefix_refl _
    · rw [dialogue, dialogue, hm, List.filterMap_append]
      exact List.prefix_append _ _
    · rw [dialogue, dialogue, hm, List.filterMap_append]
      exact List.prefix_append _ _

/-- No step removes a task. -/
theorem Step.length_le (h : Step x y) : x.parties.length ≤ y.parties.length := by
  cases h with
  | start | spawn => simp
  | _ => exact Nat.le_of_eq (by simp)

theorem steps_length_le (hsteps : Relation.ReflTransGen Step x y) :
    x.parties.length ≤ y.parties.length := by
  induction hsteps with
  | refl => exact Nat.le_refl _
  | tail _ hstep ih => exact Nat.le_trans ih hstep.length_le

/-- A step adds one task at most, and only the task that it adds is started by it. -/
theorem Step.spawns (h : Step x y) (hx : ∀ id op next, x.state? id = some (.blocked op next) →
    op.isPrompt = false) :
    x.parties.length ≤ y.parties.length ∧ ∀ b c job, (c, job) ∈ y.spawns b →
      (c, job) ∈ x.spawns b ∨ x.parties.length ≤ c := by
  cases h with
  | start job =>
    rw [length_parties_add]
    exact ⟨Nat.le_succ _, fun b c job hc => Or.inl hc⟩
  | spawn hid =>
    rw [length_parties_answer, length_parties_add]
    refine ⟨Nat.le_succ _, fun b c job hc => (mem_spawns_spawn hc).imp_right ?_⟩
    rintro ⟨-, rfl, -⟩
    exact Nat.le_refl _
  | pause hid hop => exact ⟨by simp, fun b c job hc => Or.inl (by simpa using hc)⟩
  | @reply id op next hid reply =>
    have hnone : (⟨op, reply⟩ : Answer).spawned? = none :=
      Answer.spawned?_of_not_isPrompt (hx id op next hid)
    exact ⟨by simp, fun b c job hc => Or.inl (by simpa [hnone] using hc)⟩
  | finish hid => exact ⟨by simp, fun b c job hc => Or.inl hc⟩
  | _ => exact ⟨by simp, fun b c job hc => Or.inl (by simpa [Answer.spawned?] using hc)⟩

/-- What steps have started has a number that was free before, or was started before. -/
theorem Reachable.steps_spawns {s : Setup} (h : Reachable s x)
    (hsteps : Relation.ReflTransGen Step x y) :
    x.parties.length ≤ y.parties.length ∧ ∀ b c job, (c, job) ∈ y.spawns b →
      (c, job) ∈ x.spawns b ∨ x.parties.length ≤ c := by
  induction hsteps with
  | refl => exact ⟨Nat.le_refl _, fun b c job hc => Or.inl hc⟩
  | @tail z w hfirst hstep ih =>
    have hz : Reachable s z := h.trans hfirst
    obtain ⟨hlen, hspawns⟩ := hstep.spawns hz.orderly.pauses
    refine ⟨Nat.le_trans ih.1 hlen, fun b c job hc => ?_⟩
    rcases hspawns b c job hc with hc | hle
    · exact ih.2 b c job hc
    · exact Or.inr (Nat.le_trans ih.1 hle)

/-- Tasks that have ended have ended for good, and are answered nothing any more. -/
theorem steps_ended (hsteps : Relation.ReflTransGen Step x y) {c : TaskId}
    {r : Except Failure Job.Result} (hc : x.state? c = some (.ended r)) :
    y.state? c = some (.ended r) ∧ y.dialogue c = x.dialogue c := by
  induction hsteps with
  | refl => exact ⟨hc, rfl⟩
  | tail _ hstep ih =>
    obtain ⟨hended, hsame⟩ := hstep.ended ih.1
    exact ⟨hended, hsame.trans ih.2⟩

/-- A task waits for all tasks. -/
def Drains (x : Interleaving) (id : TaskId) : Prop :=
  ∃ next, x.state? id = some (.blocked .drain next)

section Drains

variable (x : Interleaving) {id i : TaskId}

/-- Whoever can go on or is over does not wait. -/
theorem not_drains_of_state? {state : Task.State} (h : x.state? id = some state)
    (hstate : ∀ next, state ≠ .blocked .drain next) : ¬x.Drains id := by
  rintro ⟨next, hnext⟩
  rw [h, Option.some.injEq] at hnext
  exact hstate next hnext

theorem drains_setState_of_ne (hne : id ≠ i) (state : Task.State) :
    (x.setState id state).Drains i ↔ x.Drains i := by
  unfold Drains
  rw [state?_setState_of_ne x hne]

/-- Whoever is answered waits no more, and nobody else is affected. -/
theorem drains_answer (a : Answer) (p : Program Job.Result) :
    (x.answer id a p).Drains i ↔ i ≠ id ∧ x.Drains i := by
  by_cases hi : i = id
  · subst hi
    simp only [ne_eq, not_true_eq_false, false_and, iff_false]
    rintro ⟨next, hnext⟩
    rw [state?, parties_answer, if_pos rfl] at hnext
    cases hp : x.parties[i]? <;> rw [hp] at hnext <;> cases hnext
  · rw [and_iff_right hi]
    exact x.drains_setState_of_ne (Ne.symm hi) _

/-- Whoever is new can go on. -/
theorem drains_add (job : Job) (origin : TaskId) : (x.add job origin).Drains i ↔ x.Drains i := by
  constructor
  · rintro ⟨next, hnext⟩
    obtain ⟨p, hp, hstate⟩ := state?_eq_some.1 hnext
    rcases x.parties_add_cases hp with hold | ⟨-, rfl⟩
    · exact ⟨next, state?_eq_some.2 ⟨p, hold, hstate⟩⟩
    · cases hstate
  · rintro ⟨next, hnext⟩
    exact ⟨next, state?_add hnext job origin⟩

/-- What is answered on the spot makes nobody wait. -/
theorem drains_promptly {y : Interleaving} {op : Ask} {reply : Except Failure op.Reply}
    (h : x.promptly id op = some (reply, y)) : y.Drains i ↔ x.Drains i := by
  cases op with
  | emit | leave =>
    obtain ⟨-, rfl⟩ := Prod.mk.inj (Option.some.inj h)
    rfl
  | enter key =>
    simp only [promptly] at h
    split at h <;>
    · obtain ⟨-, rfl⟩ := Prod.mk.inj (Option.some.inj h)
      rfl
  | spawn name job =>
    obtain ⟨-, rfl⟩ := Prod.mk.inj (Option.some.inj h)
    exact x.drains_add job _
  | _ => cases h

/-- As a task goes on, nobody else comes to wait or stops waiting. -/
theorem drains_proceed (hne : id ≠ i) (p : Program Job.Result) :
    (x.proceed id p).Drains i ↔ x.Drains i := by
  induction p generalizing x with
  | done r => exact x.drains_setState_of_ne hne _
  | ask op next ih =>
    rw [proceed]
    split
    · next reply y hy =>
      rw [ih, drains_answer, and_iff_right (Ne.symm hne), x.drains_promptly hy]
    · exact x.drains_setState_of_ne hne _

end Drains

end Interleaving

/-- An answer about other tasks is as it should be: whoever waited for a task takes over how it
ended, and waiting for all tasks does not fail. -/
def Answer.Sound (x : Interleaving) : Answer → Prop
  | ⟨.join other, r⟩ => x.state? other = some (.ended r)
  | ⟨.drain, r⟩ => r = .ok ()
  | _ => True

namespace Answer

/-- Answers to other questions are no matter of other tasks. -/
theorem Sound.of_not_isAwait {x : Interleaving} {a : Answer} (h : a.op.isAwait = false) :
    a.Sound x := by
  obtain ⟨op, reply⟩ := a
  cases op with
  | join | drain => cases h
  | _ => trivial

/-- What is answered on the spot is no matter of other tasks. -/
theorem Sound.of_isPrompt {x : Interleaving} {a : Answer} (h : a.op.isPrompt = true) :
    a.Sound x := by
  refine .of_not_isAwait ?_
  obtain ⟨op, reply⟩ := a
  cases op with
  | join | drain => cases h
  | _ => rfl

theorem Sound.steps {x y : Interleaving} {a : Answer} (h : a.Sound x)
    (hsteps : Relation.ReflTransGen Interleaving.Step x y) : a.Sound y := by
  obtain ⟨op, reply⟩ := a
  cases op with
  | join other => exact (Interleaving.steps_ended hsteps h).1
  | drain => exact h
  | _ => trivial

end Answer

namespace Shift

open Interleaving

variable {s : Setup} {y : Shift} {id : TaskId}

section Track

variable (y : Shift) {x z : Interleaving}

/-- If no task is new, none is added to the roster. -/
theorem track_of_length_eq (h : x.parties.length = y.tasks.parties.length) :
    y.track x = { y with tasks := x } := by
  simp [track, h]

/-- One task that is new is added to the roster. -/
theorem track_of_length_succ (h : x.parties.length = y.tasks.parties.length + 1) :
    y.track x = { y with
      tasks := x
      roster := y.roster.enter y.tasks.parties.length
      started := y.started ++ [y.tasks.parties.length] } := by
  have hone : x.parties.length - y.tasks.parties.length = 1 := by omega
  simp [track, hone]

/-- An answer makes no difference to which tasks are new. -/
theorem track_answer (id : TaskId) (a : Answer) (p : Program Job.Result) :
    y.track (x.answer id a p) = { y.track x with tasks := x.answer id a p } := by
  simp [track]

/-- New tasks may be added to the roster bit by bit. -/
theorem track_track (hx : y.tasks.parties.length ≤ x.parties.length)
    (hz : x.parties.length ≤ z.parties.length) : (y.track x).track z = y.track z := by
  have hrange : List.range' y.tasks.parties.length (z.parties.length - y.tasks.parties.length) =
      List.range' y.tasks.parties.length (x.parties.length - y.tasks.parties.length) ++
        List.range' x.parties.length (z.parties.length - x.parties.length) := by
    have hstart : x.parties.length =
        y.tasks.parties.length + 1 * (x.parties.length - y.tasks.parties.length) := by omega
    have hcount : z.parties.length - y.tasks.parties.length =
        (x.parties.length - y.tasks.parties.length) + (z.parties.length - x.parties.length) := by
      omega
    rw [hcount, ← List.range'_append, ← hstart]
  simp only [track, hrange, List.foldl_append, List.append_assoc]

end Track

section Arrive

variable (y : Shift) (id : TaskId)

@[simp]
theorem tasks_arrive : (y.arrive id).tasks = y.tasks := by
  unfold arrive
  split <;> rfl

@[simp]
theorem roster_arrive : (y.arrive id).roster = y.roster := by
  unfold arrive
  split <;> rfl

@[simp]
theorem started_arrive : (y.arrive id).started = y.started := by
  unfold arrive
  split <;> rfl

@[simp]
theorem noticed_arrive : (y.arrive id).noticed = y.noticed := by
  unfold arrive
  split <;> rfl

/-- Whoever comes to wait for all tasks has a turn. -/
theorem due_arrive_of_drains (h : y.tasks.Drains id) : (y.arrive id).due = y.due ++ [id] := by
  obtain ⟨next, hnext⟩ := h
  rw [arrive, hnext]

/-- Nobody else is given one. -/
theorem arrive_of_not_drains (h : ¬y.tasks.Drains id) : y.arrive id = y := by
  unfold arrive
  split
  · next next hnext => exact absurd ⟨next, hnext⟩ h
  · rfl

/-- Those who have a turn to look are those who had one, and whoever comes to wait for all tasks. -/
theorem mem_due_arrive {c : TaskId} :
    c ∈ (y.arrive id).due ↔ c ∈ y.due ∨ c = id ∧ y.tasks.Drains id := by
  by_cases h : y.tasks.Drains id
  · rw [y.due_arrive_of_drains id h, List.mem_append, List.mem_singleton, and_iff_left h]
  · rw [y.arrive_of_not_drains id h]
    exact (or_iff_left fun hc => h hc.2).symm

end Arrive

section Replies

/-- A task that is ready goes on, and those that it starts are kept track of. -/
theorem move_go {p : Program Job.Result} (hid : y.tasks.state? id = some (.ready p)) :
    y.move (.go id) = (y.track (y.tasks.proceed id p)).arrive id := by
  rw [move, hid]
  dsimp only
  rw [Interleaving.move_go hid]

/-- A task that pauses, and not for other tasks, may be given any reply. -/
theorem move_reply {op : Ask} {next : Except Failure op.Reply → Program Job.Result}
    (hid : y.tasks.state? id = some (.blocked op next)) (hop : op.isAwait = false)
    (reply : Except Failure op.Reply) : y.move (.reply id (replying op reply)) =
      { y with tasks := y.tasks.answer id ⟨op, reply⟩ (next reply) } := by
  rw [move, hid]
  simp only [hop, Bool.false_eq_true, ↓reduceIte]
  rw [move_replying hid]

/-- A task that waits for another one is answered once the end of that one was noticed. -/
theorem move_join {other : TaskId} {next : Except Failure Job.Result → Program Job.Result}
    (hid : y.tasks.state? id = some (.blocked (.join other) next)) {r : Except Failure Job.Result}
    (hother : y.tasks.state? other = some (.ended r)) (hnoticed : other ∉ y.roster.tracked) :
    y.move (.join id) = { y with tasks := y.tasks.answer id ⟨.join other, r⟩ (next r) } := by
  rw [move, hid]
  dsimp only
  rw [hother]
  exact if_neg hnoticed

variable {next : Except Failure Unit → Program Job.Result}

/-- A task that waits for all tasks is answered if it looks and finds none. -/
theorem move_look (hid : y.tasks.state? id = some (.blocked .drain next)) (hdue : id ∈ y.due)
    (hnone : y.roster.pending = 0) : y.move (.look id) =
      { y with
        due := y.due.filter (· != id)
        tasks := y.tasks.answer id ⟨.drain, .ok ()⟩ (next (.ok ())) } := by
  rw [move, hid]
  exact (if_pos hdue).trans (if_pos hnone)

/-- A task that waits for all tasks goes on waiting if it looks and finds some. -/
theorem move_look_of_pending (hid : y.tasks.state? id = some (.blocked .drain next))
    (hdue : id ∈ y.due) (hsome : y.roster.pending ≠ 0) : y.move (.look id) =
      { y with due := y.due.filter (· != id), roster := y.roster.gather id } := by
  rw [move, hid]
  exact (if_pos hdue).trans (if_neg hsome)

end Replies

section Moves

/-- What a move can do. -/
inductive Change (y : Shift) : Move → Shift → Prop where
  /-- The move does not fit. -/
  | nothing (m : Move) : Change y m y
  /-- The host starts a task by itself. -/
  | start (job : Job) :
    Change y (.start job false) { y with tasks := y.tasks.move (.start job) }
  /-- The host has the scheduler start a task. -/
  | spawn (job : Job) : Change y (.start job true) (y.track (y.tasks.move (.start job)))
  /-- A task that is ready goes on. -/
  | go {id : TaskId} {p : Program Job.Result} (hid : y.tasks.state? id = some (.ready p)) :
    Change y (.go id) ((y.track (y.tasks.proceed id p)).arrive id)
  /-- A task that pauses, and not for other tasks, is answered. -/
  | reply {id : TaskId} {op : Ask} {next : Except Failure op.Reply → Program Job.Result}
      (hid : y.tasks.state? id = some (.blocked op next)) (hop : op.isAwait = false)
      (replies : (op : Ask) → Except Failure op.Reply) :
    Change y (.reply id replies)
      { y with tasks := y.tasks.answer id ⟨op, replies op⟩ (next (replies op)) }
  /-- A task that waits for another one takes over how that one ended. -/
  | join {id other : TaskId} {next : Except Failure Job.Result → Program Job.Result}
      {r : Except Failure Job.Result}
      (hid : y.tasks.state? id = some (.blocked (.join other) next))
      (hother : y.tasks.state? other = some (.ended r)) :
    Change y (.join id) { y with tasks := y.tasks.answer id ⟨.join other, r⟩ (next r) }
  /-- The end of a task is noticed. -/
  | notice {id : TaskId} {r : Except Failure Job.Result}
      (hid : y.tasks.state? id = some (.ended r)) :
    Change y (.notice id)
      { y with
        roster := (y.roster.notice id).2
        due := y.due ++ (y.roster.notice id).1
        noticed := y.noticed ++ [id] }
  /-- A task that waits for all tasks finds none. -/
  | drain {id : TaskId} {next : Except Failure Unit → Program Job.Result}
      (hid : y.tasks.state? id = some (.blocked .drain next)) (hdue : id ∈ y.due)
      (hnone : y.roster.pending = 0) :
    Change y (.look id)
      { y with
        due := y.due.filter (· != id)
        tasks := y.tasks.answer id ⟨.drain, .ok ()⟩ (next (.ok ())) }
  /-- A task that waits for all tasks finds some. -/
  | gather {id : TaskId} {next : Except Failure Unit → Program Job.Result}
      (hid : y.tasks.state? id = some (.blocked .drain next)) (hdue : id ∈ y.due)
      (hsome : y.roster.pending ≠ 0) :
    Change y (.look id) { y with due := y.due.filter (· != id), roster := y.roster.gather id }

/-- A move does one of these things. -/
theorem move_change (y : Shift) (m : Move) : Change y m (y.move m) := by
  cases m with
  | start job tracked =>
    cases tracked with
    | false => exact .start job
    | true => exact .spawn job
  | go id =>
    by_cases hready : ∃ p, y.tasks.state? id = some (.ready p)
    · obtain ⟨p, hp⟩ := hready
      rw [move_go hp]
      exact .go hp
    · -- A task that is not ready is not let go on.
      have hmove : y.move (.go id) = y := by
        rw [move]
        split
        · next p hp => exact absurd ⟨p, hp⟩ hready
        · rfl
      rw [hmove]
      exact .nothing _
  | reply id replies =>
    simp only [move]
    split
    · next op next hid =>
      split
      · -- A wait for other tasks is not ended by a reply.
        exact .nothing _
      · next hop =>
        simp only [Interleaving.move, hid]
        exact .reply hid (Bool.eq_false_iff.2 hop) replies
    · exact .nothing _
  | join id =>
    simp only [move]
    split
    · next other next hid =>
      split
      · next r hr =>
        split
        · exact .nothing _
        · exact .join hid hr
      · exact .nothing _
    · exact .nothing _
  | notice id =>
    simp only [move]
    split
    · next r hid => exact .notice hid
    · exact .nothing _
  | look id =>
    simp only [move]
    split
    · next next hid =>
      split
      · next hdue =>
        split
        · next hnone => exact .drain hid hdue hnone
        · next hsome => exact .gather hid hdue hsome
      · exact .nothing _
    · exact .nothing _

/-- The tasks move on by moves of an interleaving. -/
theorem Change.tasks {z : Shift} {m : Move} (h : Change y m z) :
    ∃ ms : List IndexSync.Move, z.tasks = ms.foldl Interleaving.move y.tasks := by
  cases h with
  | nothing m => exact ⟨[], rfl⟩
  | start job => exact ⟨[.start job], rfl⟩
  | spawn job => exact ⟨[.start job], rfl⟩
  | @go id p hid =>
    refine ⟨[.go id], ?_⟩
    rw [tasks_arrive]
    exact (Interleaving.move_go hid).symm
  | @reply id op next hid _ replies =>
    refine ⟨[.reply id replies], ?_⟩
    change _ = y.tasks.move (.reply id replies)
    rw [Interleaving.move, hid]
  | @join id other next r hid _ =>
    exact ⟨[.reply id (replying (.join other) r)], (move_replying hid r).symm⟩
  | notice hid => exact ⟨[], rfl⟩
  | @drain id next hid _ _ =>
    exact ⟨[.reply id (replying .drain (.ok ()))], (move_replying hid _).symm⟩
  | gather hid _ _ => exact ⟨[], rfl⟩

/-- Every shift is an interleaving. -/
theorem run_tasks (s : Setup) (moves : List Move) :
    ∃ ms, (run s moves).tasks = Interleaving.run s ms := by
  induction moves using List.reverseRecOn with
  | nil => exact ⟨[], rfl⟩
  | append_singleton moves m ih =>
    obtain ⟨ms, hms⟩ := ih
    obtain ⟨ms', hms'⟩ := ((run s moves).move_change m).tasks
    refine ⟨ms ++ ms', ?_⟩
    rw [run_append, hms', hms, Interleaving.run, Interleaving.run, List.foldl_append]

theorem run_reachable (s : Setup) (moves : List Move) : Reachable s (run s moves).tasks := by
  obtain ⟨ms, hms⟩ := run_tasks s moves
  rw [hms]
  exact Interleaving.run_reachable s ms

/-- The tasks move on by single steps. -/
theorem move_steps (y : Shift) (m : Move) :
    Relation.ReflTransGen Step y.tasks (y.move m).tasks := by
  obtain ⟨ms, hms⟩ := (y.move_change m).tasks
  rw [hms]
  exact foldl_move_steps y.tasks ms

theorem foldl_move_steps (y : Shift) (moves : List Move) :
    Relation.ReflTransGen Step y.tasks (moves.foldl move y).tasks := by
  induction moves generalizing y with
  | nil => exact .refl
  | cons m moves ih => exact (y.move_steps m).trans (ih (y.move m))

end Moves

/-- What holds of the roster, whatever happened. -/
structure Kept (y : Shift) : Prop where
  /-- No task was started twice. -/
  nodup : y.started.Nodup
  /-- The tasks that were started take part. -/
  known : ∀ c ∈ y.started, c < y.tasks.parties.length
  /-- The scheduler has started all tasks that tasks have started. -/
  spawned : ∀ b c job, (c, job) ∈ y.tasks.spawns b → c ∈ y.started
  /-- The scheduler keeps track of the tasks that it has started and whose end was not noticed. -/
  tracked : y.roster.tracked = y.started.filter (· ∉ y.noticed)
  /-- Ends that were noticed have come about. -/
  noticed : ∀ c ∈ y.noticed, ∃ r, y.tasks.state? c = some (.ended r)
  /-- Whoever waits for all tasks waits for some that are kept track of. -/
  gathers : ∀ g ∈ y.roster.gathers, g.2 ≠ [] ∧ g.2 ⊆ y.roster.tracked
  /-- Answers about other tasks are as they should be. -/
  sound : ∀ i, ∀ a ∈ y.tasks.dialogue i, a.Sound y.tasks

section Kept

/-- It makes no difference who has a turn to look. -/
theorem Kept.withDue (h : y.Kept) (due : List TaskId) : Kept { y with due } :=
  ⟨h.nodup, h.known, h.spawned, h.tracked, h.noticed, h.gathers, h.sound⟩

theorem Kept.arrive (h : y.Kept) (id : TaskId) : (y.arrive id).Kept := by
  unfold Shift.arrive
  split
  · exact h.withDue _
  · exact h

/-- The tasks may move on without starting any. -/
theorem Kept.onwards (h : y.Kept) {x : Interleaving}
    (hsteps : Relation.ReflTransGen Step y.tasks x)
    (hspawns : ∀ b, x.spawns b = y.tasks.spawns b)
    (hlength : y.tasks.parties.length ≤ x.parties.length)
    (hsound : ∀ i, ∀ a ∈ x.dialogue i, a ∈ y.tasks.dialogue i ∨ a.Sound x) :
    Kept { y with tasks := x } where
  nodup := h.nodup
  known c hc := Nat.lt_of_lt_of_le (h.known c hc) hlength
  spawned b c job hc := by
    rw [hspawns] at hc
    exact h.spawned b c job hc
  tracked := h.tracked
  noticed c hc := by
    obtain ⟨r, hr⟩ := h.noticed c hc
    exact ⟨r, (steps_ended hsteps hr).1⟩
  gathers := h.gathers
  sound i a ha := by
    rcases hsound i a ha with ha | ha
    · exact (h.sound i a ha).steps hsteps
    · exact ha

/-- The tasks may move on, and the scheduler keeps track of those that are new. -/
theorem Kept.track (h : y.Kept) (hy : Reachable s y.tasks) {x : Interleaving}
    (hsteps : Relation.ReflTransGen Step y.tasks x)
    (hsound : ∀ i, ∀ a ∈ x.dialogue i, a ∈ y.tasks.dialogue i ∨ a.Sound x) :
    (y.track x).Kept := by
  obtain ⟨hlength, hspawns⟩ := hy.steps_spawns hsteps
  have hx : Reachable s x := hy.trans hsteps
  -- The new numbers are those from the old number of tasks up to the new one.
  have hnew : ∀ c, c ∈ List.range' y.tasks.parties.length
      (x.parties.length - y.tasks.parties.length) ↔
        y.tasks.parties.length ≤ c ∧ c < x.parties.length := by
    intro c
    rw [List.mem_range'_1]
    omega
  have hfresh : ∀ c, y.tasks.parties.length ≤ c → c ∉ y.noticed := by
    intro c hc hmem
    obtain ⟨r, hr⟩ := h.noticed c hmem
    exact absurd (lt_length_of_state? hr) (Nat.not_lt.2 hc)
  exact {
    nodup := by
      refine List.nodup_append.2 ⟨h.nodup, List.nodup_range', ?_⟩
      rintro c hc c' hc' rfl
      exact absurd (h.known c hc) (Nat.not_lt.2 ((hnew c).1 hc').1)
    known := fun c hc => by
      rcases List.mem_append.1 hc with hc | hc
      · exact Nat.lt_of_lt_of_le (h.known c hc) hlength
      · exact ((hnew c).1 hc).2
    spawned := fun b c job hc => by
      rcases hspawns b c job hc with hc | hle
      · exact List.mem_append_left _ (h.spawned b c job hc)
      · obtain ⟨-, hkin⟩ := hx.kinship.started b c job hc
        exact List.mem_append_right _ ((hnew c).2 ⟨hle, lt_length_of_kin? x hkin⟩)
    tracked := by
      change (List.foldl Roster.enter y.roster _).tracked = _
      rw [Roster.tracked_enterAll, h.tracked, Shift.track, List.filter_append]
      congr 1
      refine (List.filter_eq_self.2 fun c hc => ?_).symm
      exact decide_eq_true (hfresh c ((hnew c).1 hc).1)
    noticed := fun c hc => by
      obtain ⟨r, hr⟩ := h.noticed c hc
      exact ⟨r, (steps_ended hsteps hr).1⟩
    gathers := fun g hg => by
      change g ∈ (List.foldl Roster.enter y.roster _).gathers at hg
      rw [Roster.gathers_enterAll] at hg
      obtain ⟨hne, hsub⟩ := h.gathers g hg
      refine ⟨hne, fun c hc => ?_⟩
      change c ∈ (List.foldl Roster.enter y.roster _).tracked
      rw [Roster.tracked_enterAll]
      exact List.mem_append_left _ (hsub hc)
    sound := fun i a ha => by
      rcases hsound i a ha with ha | ha
      · exact (h.sound i a ha).steps hsteps
      · exact ha }

/-- A task that pauses may be answered, as it should be. -/
theorem Kept.answer (h : y.Kept) (hy : Reachable s y.tasks) {op : Ask}
    {next : Except Failure op.Reply → Program Job.Result}
    (hid : y.tasks.state? id = some (.blocked op next)) {reply : Except Failure op.Reply}
    (hsound : Answer.Sound y.tasks ⟨op, reply⟩) :
    Kept { y with tasks := y.tasks.answer id ⟨op, reply⟩ (next reply) } := by
  have hstep : Relation.ReflTransGen Step y.tasks
      (y.tasks.answer id ⟨op, reply⟩ (next reply)) := .single (.reply hid reply)
  have hnone : (⟨op, reply⟩ : Answer).spawned? = none :=
    Answer.spawned?_of_not_isPrompt (hy.orderly.pauses id op next hid)
  refine h.onwards hstep (fun b => by simp [hnone]) (by simp) fun i a ha => ?_
  rw [dialogue_answer, List.mem_append] at ha
  refine ha.imp_right fun ha => ?_
  split at ha
  · rw [List.mem_singleton.1 ha]
    exact hsound.steps hstep
  · cases ha

/-- The end of a task may be noticed. -/
theorem Kept.notice (h : y.Kept) {r : Except Failure Job.Result}
    (hid : y.tasks.state? id = some (.ended r)) :
    Kept { y with roster := (y.roster.notice id).2, noticed := y.noticed ++ [id] } where
  nodup := h.nodup
  known := h.known
  spawned := h.spawned
  tracked := by
    change (y.roster.notice id).2.tracked = _
    rw [Roster.tracked_notice, h.tracked, List.filter_filter]
    refine List.filter_congr fun c _ => ?_
    by_cases hc : c = id <;> simp [hc]
  noticed c hc := by
    rcases List.mem_append.1 hc with hc | hc
    · exact h.noticed c hc
    · rw [List.mem_singleton.1 hc]
      exact ⟨r, hid⟩
  gathers g hg := by
    obtain ⟨group, hgroup, hrest, hne⟩ := (y.roster.mem_gathers_notice id).1 hg
    refine ⟨hne, fun c hc => ?_⟩
    rw [hrest, List.mem_filter] at hc
    change c ∈ (y.roster.notice id).2.tracked
    rw [Roster.tracked_notice, List.mem_filter]
    exact ⟨(h.gathers _ hgroup).2 hc.1, hc.2⟩
  sound := h.sound

/-- A task may wait for all those that are kept track of, if there are any. -/
theorem Kept.gather (h : y.Kept) (hne : y.roster.pending ≠ 0) (id : TaskId) :
    Kept { y with roster := y.roster.gather id } := by
  refine ⟨h.nodup, h.known, h.spawned, h.tracked, h.noticed, fun g hg => ?_, h.sound⟩
  rcases List.mem_append.1 hg with hg | hg
  · exact h.gathers g hg
  · rw [List.mem_singleton.1 hg]
    exact ⟨fun hnil => hne (List.length_eq_zero_iff.2 hnil), fun c hc => hc⟩

theorem Kept.change (h : y.Kept) (hy : Reachable s y.tasks) {m : Move} {z : Shift}
    (hchange : Change y m z) : z.Kept := by
  cases hchange with
  | nothing m => exact h
  | start job =>
    have hsteps := Interleaving.move_steps y.tasks (.start job)
    exact h.onwards hsteps (fun b => rfl) (hy.steps_spawns hsteps).1 fun i a ha => Or.inl ha
  | spawn job =>
    exact h.track hy (Interleaving.move_steps y.tasks (.start job)) fun i a ha => Or.inl ha
  | @go id p hid =>
    refine (h.track hy (proceed_steps hid) fun i a ha => ?_).arrive id
    -- A task that goes on is answered on the spot, and no other task is answered.
    by_cases hi : id = i
    · subst hi
      obtain ⟨u, hu, hprompt⟩ := (proceed_answers id p y.tasks).1
      rw [hu, List.mem_append] at ha
      exact ha.imp_right fun ha => .of_isPrompt (hprompt a ha)
    · rw [(proceed_of_ne hi p y.tasks).1] at ha
      exact Or.inl ha
  | reply hid hop replies => exact h.answer hy hid (.of_not_isAwait hop)
  | join hid hother => exact h.answer hy hid hother
  | notice hid => exact (h.notice hid).withDue _
  | drain hid _ _ => exact (h.answer hy hid rfl).withDue _
  | @gather id _ _ _ hsome => exact (h.gather hsome id).withDue _

/-- The roster is kept as it should be, whatever happens. -/
theorem run_kept (s : Setup) (moves : List Move) : (run s moves).Kept := by
  induction moves using List.reverseRecOn with
  | nil =>
    refine ⟨List.nodup_nil, fun c hc => ?_, fun b c job hc => ?_, rfl, fun c hc => ?_,
      fun g hg => ?_, fun i a ha => ?_⟩
    · cases hc
    · cases hc
    · cases hc
    · cases hg
    · cases ha
  | append_singleton moves m ih =>
    rw [run_append]
    exact ih.change (run_reachable s moves) (move_change _ m)

end Kept

section Drain

variable {next : Except Failure Unit → Program Job.Result}

/-- No task is kept track of exactly if every end was noticed. -/
theorem Kept.pending_eq_zero (h : y.Kept) :
    y.roster.pending = 0 ↔ ∀ c ∈ y.started, c ∈ y.noticed := by
  rw [Roster.pending, h.tracked, List.length_eq_zero_iff, List.filter_eq_nil_iff]
  simp

/-- Once every end was noticed, nobody is left to wait: whoever waited has a turn to look. -/
theorem Kept.gathers_eq_nil (h : y.Kept) (hnone : y.roster.pending = 0) :
    y.roster.gathers = [] := by
  refine List.eq_nil_iff_forall_not_mem.2 fun g hg => ?_
  obtain ⟨hne, hsub⟩ := h.gathers g hg
  rw [List.length_eq_zero_iff.1 hnone] at hsub
  exact hne (List.subset_nil.1 hsub)

/-- Whoever waits for all tasks goes on waiting, unless it looks and finds none. -/
theorem Change.waiting {m : Move} {z : Shift} (h : Change y m z)
    (hid : y.tasks.state? id = some (.blocked .drain next)) :
    z.tasks.state? id = some (.blocked .drain next) ∨
      m = .look id ∧ id ∈ y.due ∧ y.roster.pending = 0 ∧
        z.tasks.state? id = some (.ready (next (.ok ()))) := by
  -- A task that is answered, and not about all tasks, is another one.
  have hother : ∀ {i : TaskId} {state : Task.State} (a : Answer) (p : Program Job.Result),
      y.tasks.state? i = some state → state ≠ .blocked .drain next →
      (y.tasks.answer i a p).state? id = some (.blocked .drain next) := by
    intro i state a p hi hstate
    have hne : i ≠ id := by
      rintro rfl
      rw [hid, Option.some.injEq] at hi
      exact hstate hi.symm
    exact (state?_setState_of_ne y.tasks hne _).trans hid
  cases h with
  | nothing m => exact Or.inl hid
  | start job => exact Or.inl (state?_add hid job _)
  | spawn job => exact Or.inl (state?_add hid job _)
  | @go i p hi =>
    have hne : i ≠ id := by
      rintro rfl
      rw [hid] at hi
      cases hi
    refine Or.inl ?_
    rw [tasks_arrive]
    change (y.tasks.proceed i p).state? id = _
    rw [state?, (proceed_of_ne hne p y.tasks).2 (lt_length_of_state? hid)]
    exact hid
  | @reply i op _ hi hop replies =>
    refine Or.inl (hother _ _ hi fun heq => ?_)
    cases heq
    cases hop
  | join hi _ => exact Or.inl (hother _ _ hi fun heq => by cases heq)
  | notice _ => exact Or.inl hid
  | @drain i next' hi hdue hnone =>
    by_cases hne : i = id
    · subst hne
      rw [hid, Option.some.injEq] at hi
      cases hi
      exact Or.inr ⟨rfl, hdue, hnone, state?_answer (lt_length_of_state? hid) _ _⟩
    · exact Or.inl ((state?_setState_of_ne y.tasks hne _).trans hid)
  | gather _ _ _ => exact Or.inl hid

/-- Whoever waits for all tasks and has a turn is answered exactly if every end was noticed. -/
theorem Kept.look_iff (h : y.Kept) (hid : y.tasks.state? id = some (.blocked .drain next))
    (hdue : id ∈ y.due) :
    (y.move (.look id)).tasks.state? id = some (.ready (next (.ok ()))) ↔
      ∀ c ∈ y.started, c ∈ y.noticed := by
  rw [← h.pending_eq_zero]
  constructor
  · intro hready
    rcases (y.move_change (.look id)).waiting hid with hblocked | ⟨-, -, hnone, -⟩
    · rw [hblocked] at hready
      cases hready
    · exact hnone
  · intro hnone
    rw [move_look hid hdue hnone]
    exact state?_answer (lt_length_of_state? hid) _ _

/-- The ends of tasks are noticed, one after the other. -/
def noticeAll (y : Shift) (ends : List TaskId) : Shift := (ends.map Move.notice).foldl move y

/-- To notice ends changes no task, and the ends of those that have ended are noticed. -/
theorem noticeAll_facts (y : Shift) (ends : List TaskId) :
    (y.noticeAll ends).tasks = y.tasks ∧ (y.noticeAll ends).started = y.started ∧
      ∀ c, c ∈ y.noticed ∨ (c ∈ ends ∧ ∃ r, y.tasks.state? c = some (.ended r)) →
        c ∈ (y.noticeAll ends).noticed := by
  induction ends generalizing y with
  | nil =>
    refine ⟨rfl, rfl, fun c hc => hc.resolve_right fun hmem => ?_⟩
    cases hmem.1
  | cons e ends ih =>
    obtain ⟨htasks, hstarted, hnoticed⟩ := ih (y.move (.notice e))
    have hmove : (y.move (.notice e)).tasks = y.tasks ∧ (y.move (.notice e)).started = y.started ∧
        ∀ c, c ∈ y.noticed ∨ (c = e ∧ ∃ r, y.tasks.state? c = some (.ended r)) →
          c ∈ (y.move (.notice e)).noticed := by
      simp only [move]
      split
      · refine ⟨rfl, rfl, fun c hc => List.mem_append.2 (hc.imp_right fun hc => ?_)⟩
        exact List.mem_singleton.2 hc.1
      · next hstate =>
        refine ⟨rfl, rfl, fun c hc => hc.resolve_right ?_⟩
        rintro ⟨rfl, r, hr⟩
        exact hstate r hr
    refine ⟨htasks.trans hmove.1, hstarted.trans hmove.2.1, fun c hc => hnoticed c ?_⟩
    rw [hmove.1, List.mem_cons] at *
    rcases hc with hc | ⟨rfl | hc, hr⟩
    · exact Or.inl (hmove.2.2 c (Or.inl hc))
    · exact Or.inl (hmove.2.2 c (Or.inr ⟨rfl, hr⟩))
    · exact Or.inr ⟨hc, hr⟩

end Drain

end Shift

end IndexSync
