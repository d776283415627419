import IndexSync.Proofs.Interleaving.Dispatching
import Mathlib.Data.List.Sort

/-!
# Tasks that stand in line

Tasks may take turns in the order in which they became ready: a task that is started, or that is
answered after it has paused, goes to the end of a queue, and the first one in the queue goes on. It
may be answered on the spot any number of times before its turn is over. When a task that pauses is
answered, and with what, is left open.

* `Line.run s beats` — the tasks and their queue after what happened in order;
* `Line.Queued l k` — the tasks from number `k` on have not had a turn, and they are in the queue in
  the order of their numbers;
* `InOrder moments` — tasks ask for the first time in the order of their numbers;
* `Line.Kept.ordered` — the tasks of a decision have its actions done in their order;
* `Interleaving.dispatch_contained` — what a dispatch does, for all orders of turns and for this
  one.
-/

namespace IndexSync

/-- The task that a moment is about. -/
def Moment.task : Moment → TaskId
  | .asked task _ => task
  | .answered task _ => task

/-- The one of some tasks that has asked something at a moment. -/
def Moment.asker? (ids : List TaskId) : Moment → Option TaskId
  | .asked task _ => if task ∈ ids then some task else none
  | .answered _ _ => none

theorem mem_askers {moments : List Moment} {ids : List TaskId} {c : TaskId} :
    c ∈ moments.filterMap (Moment.asker? ids) ↔ c ∈ ids ∧ ∃ op, .asked c op ∈ moments := by
  rw [List.mem_filterMap]
  constructor
  · rintro ⟨m, hm, hc⟩
    cases m with
    | answered task a => cases hc
    | asked task op =>
      obtain ⟨hmem, hsame⟩ := Option.ite_none_right_eq_some.1 hc
      obtain rfl := Option.some.inj hsame
      exact ⟨hmem, op, hm⟩
  · rintro ⟨hmem, op, hm⟩
    exact ⟨_, hm, if_pos hmem⟩

/-- A move of one task. -/
def Move.IsOf (id : TaskId) : Move → Prop
  | .start _ => False
  | .go task => task = id
  | .reply task _ => task = id

/-- Whoever asks for the first time has a higher number than all who have asked before. -/
def InOrder (moments : List Moment) : Prop :=
  ∀ pre c op post, moments = pre ++ .asked c op :: post →
    (∃ op', .asked c op' ∈ pre) ∨ ∀ c' op', .asked c' op' ∈ pre → c' < c

section InOrder

variable {moments : List Moment}

theorem InOrder.snoc (h : InOrder moments) {m : Moment}
    (hm : ∀ c op, m = .asked c op → (∃ op', .asked c op' ∈ moments) ∨
      ∀ c' op', .asked c' op' ∈ moments → c' < c) : InOrder (moments ++ [m]) := by
  intro pre c op post hsplit
  rcases snoc_eq_append_cons hsplit with ⟨-, rfl, rfl⟩ | ⟨post', -, hsplit⟩
  · exact hm c op rfl
  · exact h pre c op post' hsplit

/-- One task may go on, provided that it has asked before or has a higher number than all who have.
-/
theorem InOrder.append (h : InOrder moments) {id : TaskId} {new : List Moment}
    (hnew : ∀ m ∈ new, m.task = id)
    (hid : (∃ op, .asked id op ∈ moments) ∨ ∀ c op, .asked c op ∈ moments → c < id) :
    InOrder (moments ++ new) := by
  induction new generalizing moments with
  | nil => simpa using h
  | cons m new ih =>
    have htask : m.task = id := hnew m List.mem_cons_self
    rw [List.append_cons]
    apply ih (h.snoc fun c op hm => ?_) (fun m' hm' => hnew m' (List.mem_cons_of_mem _ hm'))
    · -- Once the task has asked, it has asked before whatever comes next.
      rcases hid with ⟨op, hop⟩ | hless
      · exact Or.inl ⟨op, List.mem_append_left _ hop⟩
      · cases m with
        | asked task op =>
          obtain rfl : task = id := htask
          exact Or.inl ⟨op, List.mem_append_right _ (List.mem_singleton.2 rfl)⟩
        | answered task a =>
          refine Or.inr fun c op hc => hless c op ?_
          exact (List.mem_append.1 hc).resolve_right (by simp)
    · obtain rfl : c = id := by
        rw [← htask, hm]
        rfl
      exact hid

/-- Tasks that ask once at most have asked in the order of their numbers. -/
theorem InOrder.askers_lt (h : InOrder moments) {ids : List TaskId}
    (hone : ∀ c ∈ ids, (moments.filterMap (·.askedBy? c)).length ≤ 1) :
    (moments.filterMap (Moment.asker? ids)).Pairwise (· < ·) := by
  induction moments using List.reverseRecOn with
  | nil => exact List.Pairwise.nil
  | append_singleton moments m ih =>
    have hbefore : InOrder moments := by
      intro pre c op post hsplit
      apply h pre c op (post ++ [m])
      rw [hsplit, List.append_assoc, List.cons_append]
    have honce : ∀ c ∈ ids, (moments.filterMap (·.askedBy? c)).length ≤ 1 := by
      intro c hc
      have hle := hone c hc
      rw [List.filterMap_append, List.length_append] at hle
      omega
    rw [List.filterMap_append, List.pairwise_append]
    refine ⟨ih hbefore honce, ?_, fun c' hc' c hc => ?_⟩
    · cases hm : m.asker? ids <;> simp [hm]
    · -- The last one to ask has a higher number than all that asked before.
      obtain ⟨hmem, op, hop⟩ := mem_askers.1 hc
      obtain rfl := List.mem_singleton.1 hop
      obtain ⟨-, op', hop'⟩ := mem_askers.1 hc'
      rcases h moments c op [] rfl with ⟨op'', hop''⟩ | hless
      · -- It would have asked twice.
        have hle := hone c hmem
        have hasked : op'' ∈ moments.filterMap (·.askedBy? c) :=
          List.mem_filterMap.2 ⟨_, hop'', if_pos rfl⟩
        have hpos := List.length_pos_of_mem hasked
        have hlast : ([.asked c op] : List Moment).filterMap (·.askedBy? c) = [op] := by
          simp [Moment.askedBy?]
        rw [List.filterMap_append, List.length_append, hlast, List.length_singleton] at hle
        omega
      · exact hless c' op' hop'

end InOrder

namespace Interleaving

variable {s : Setup} {x y : Interleaving} {id : TaskId}

section Solo

/-- All that has happened in between happened to one task, which may have started others. -/
structure Solo (id : TaskId) (x y : Interleaving) : Prop where
  /-- The moments are about the task. -/
  moments : ∃ new, y.moments = x.moments ++ new ∧ ∀ m ∈ new, m.task = id
  /-- No task is removed. -/
  length : x.parties.length ≤ y.parties.length
  /-- The other tasks are as they were. -/
  others : ∀ i : Nat, i ≠ id → i < x.parties.length → y.parties[i]? = x.parties[i]?

theorem Solo.refl (id : TaskId) (x : Interleaving) : Solo id x x :=
  ⟨⟨[], by simp⟩, Nat.le_refl _, fun _ _ _ => rfl⟩

theorem Solo.trans {z : Interleaving} (hxy : Solo id x y) (hyz : Solo id y z) : Solo id x z := by
  obtain ⟨new, hnew, htask⟩ := hxy.moments
  obtain ⟨new', hnew', htask'⟩ := hyz.moments
  refine ⟨⟨new ++ new', ?_, fun m hm => ?_⟩, Nat.le_trans hxy.length hyz.length, ?_⟩
  · rw [hnew', hnew, List.append_assoc]
  · rcases List.mem_append.1 hm with hm | hm
    · exact htask m hm
    · exact htask' m hm
  · intro i hi hlt
    rw [hyz.others i hi (Nat.lt_of_lt_of_le hlt hxy.length), hxy.others i hi hlt]

/-- The other tasks have been answered nothing. -/
theorem Solo.dialogue (h : Solo id x y) {i : TaskId} (hi : i ≠ id) :
    y.dialogue i = x.dialogue i := by
  obtain ⟨new, hnew, htask⟩ := h.moments
  have hnone : new.filterMap (·.answerTo? i) = [] := by
    refine List.filterMap_eq_nil_iff.2 fun m hm => ?_
    have hid := htask m hm
    cases m with
    | asked task op => rfl
    | answered task a =>
      obtain rfl : task = id := hid
      exact if_neg (Ne.symm hi)
  rw [Interleaving.dialogue, hnew, List.filterMap_append, hnone, List.append_nil]
  rfl

theorem proceed_solo (id : TaskId) (p : Program Job.Result) (x : Interleaving) :
    Solo id x (x.proceed id p) := by
  induction p generalizing x with
  | done r =>
    refine ⟨⟨[], by simp [proceed]⟩, Nat.le_of_eq (length_parties_setState ..).symm, ?_⟩
    intro i hi _
    rw [proceed, parties_setState, if_neg (Ne.symm hi)]
  | ask op next ih =>
    rw [proceed]
    split
    · next reply y hy =>
      obtain ⟨hmoments, hlength, hparties⟩ := promptly_eq_some hy
      -- An answer on the spot goes to the task itself and may add another one behind those there
      -- are.
      have hanswer : Solo id x (y.answer id ⟨op, reply⟩ (next reply)) := by
        refine ⟨⟨[.answered id ⟨op, reply⟩], ?_, by simp [Moment.task]⟩, ?_, ?_⟩
        · rw [moments_answer, hmoments]
        · rw [length_parties_answer]
          exact hlength
        · intro i hi hlt
          rw [parties_answer, if_neg (Ne.symm hi), hparties i hlt]
      exact hanswer.trans (ih reply _)
    · refine ⟨⟨[.asked id op], rfl, by simp [Moment.task]⟩, ?_, ?_⟩
      · exact Nat.le_of_eq (length_parties_setState ..).symm
      · intro i hi _
        rw [parties_note, parties_setState, if_neg (Ne.symm hi)]

theorem move_solo {m : Move} (hm : m.IsOf id) (x : Interleaving) : Solo id x (x.move m) := by
  cases m with
  | start job => exact hm.elim
  | go task =>
    obtain rfl : task = id := hm
    rw [move]
    split
    · exact proceed_solo task _ x
    · exact .refl task x
  | reply task replies =>
    obtain rfl : task = id := hm
    rw [move]
    split
    · next op next _ =>
      refine ⟨⟨_, rfl, by simp [Moment.task]⟩, Nat.le_of_eq (length_parties_answer ..).symm, ?_⟩
      intro i hi _
      rw [parties_answer, if_neg (Ne.symm hi)]
    · exact .refl task x

theorem foldl_move_solo {moves : List Move} (hmoves : ∀ m ∈ moves, m.IsOf id) (x : Interleaving) :
    Solo id x (moves.foldl move x) := by
  induction moves generalizing x with
  | nil => exact .refl id x
  | cons m moves ih =>
    have hfirst := move_solo (hmoves m List.mem_cons_self) x
    exact hfirst.trans (ih (fun m' hm' => hmoves m' (List.mem_cons_of_mem _ hm')) (x.move m))

/-- Moves of a task that is over, or that does not take part, change nothing. -/
theorem foldl_move_of_spent {moves : List Move} (hmoves : ∀ m ∈ moves, m.IsOf id)
    (hready : ∀ program, x.state? id ≠ some (.ready program))
    (hblocked : ∀ op next, x.state? id ≠ some (.blocked op next)) : moves.foldl move x = x := by
  induction moves with
  | nil => rfl
  | cons m moves ih =>
    have hm := hmoves m List.mem_cons_self
    -- A task can only go on when it is ready, and be replied to when it is blocked.
    have hsame : x.move m = x := by
      cases m with
      | start job => exact hm.elim
      | go task =>
        obtain rfl : task = id := hm
        rw [move]
        split
        · next program hprogram => exact absurd hprogram (hready program)
        · rfl
      | reply task replies =>
        obtain rfl : task = id := hm
        rw [move]
        split
        · next op next hop => exact absurd hop (hblocked op next)
        · rfl
    rw [List.foldl_cons, hsame]
    exact ih fun m' hm' => hmoves m' (List.mem_cons_of_mem _ hm')

/-- After a move of its own, a task has come as far as it can. -/
theorem resting_move_go (x : Interleaving) (id : TaskId) : (x.move (.go id)).Resting id := by
  intro q
  rw [move]
  split
  · exact proceed_not_ready id _ q x
  · next hnot => exact hnot q

end Solo

section Turn

/-- The moves of one turn: a task goes on, and whenever it pauses it may be answered on the spot. -/
def turnMoves (id : TaskId) (replies : List ((op : Ask) → Except Failure op.Reply)) : List Move :=
  (replies.flatMap fun r => [.go id, .reply id r]) ++ [.go id]

theorem isOf_turnMoves {replies : List ((op : Ask) → Except Failure op.Reply)} {m : Move}
    (hm : m ∈ turnMoves id replies) : m.IsOf id := by
  rcases List.mem_append.1 hm with hm | hm
  · obtain ⟨r, -, hm⟩ := List.mem_flatMap.1 hm
    simp only [List.mem_cons, List.not_mem_nil, or_false] at hm
    rcases hm with rfl | rfl
    · rfl
    · rfl
  · rw [List.mem_singleton.1 hm]
    rfl

/-- Once its turn is over, a task has come as far as it can. -/
theorem resting_turn (x : Interleaving) (id : TaskId)
    (replies : List ((op : Ask) → Except Failure op.Reply)) :
    ((turnMoves id replies).foldl move x).Resting id := by
  rw [turnMoves, List.foldl_append]
  exact resting_move_go _ id

end Turn

/-- A task that has not had a turn yet. -/
def Fresh (x : Interleaving) (id : TaskId) : Prop :=
  x.dialogue id = [] ∧ ∃ program, x.state? id = some (.ready program)

/-- What one task does has no effect on whether others have had a turn. -/
theorem Solo.fresh (h : Solo id x y) {i : Nat} (hi : i ≠ id) (hlt : i < x.parties.length)
    (hfresh : y.Fresh i) : x.Fresh i := by
  obtain ⟨hnil, program, hready⟩ := hfresh
  rw [h.dialogue hi] at hnil
  rw [state?, h.others i hi hlt] at hready
  exact ⟨hnil, program, hready⟩

/-- Between moves, a task that has had a turn and is not over has asked something. -/
theorem run_asked_of_ready {moves : List Move} (hfresh : ¬(run s moves).Fresh id)
    {program : Program Job.Result} (hready : (run s moves).state? id = some (.ready program)) :
    ∃ op, .asked id op ∈ (run s moves).moments := by
  rcases run_ready hready with hnil | ⟨t, a, hdialogue, hop⟩
  · exact absurd ⟨hnil, program, hready⟩ hfresh
  · -- The last question that was answered made it pause.
    refine ⟨a.op, mem_asked.1 ?_⟩
    rw [(run_reachable s moves).recorded id, hdialogue, Dialogue.pauses_append]
    simp [Dialogue.pauses, hop]

/-- A task that pauses has asked something. -/
theorem Reachable.asked_of_blocked (h : Reachable s x) {op : Ask}
    {next : Except Failure op.Reply → Program Job.Result}
    (hblocked : x.state? id = some (.blocked op next)) : .asked id op ∈ x.moments := by
  refine mem_asked.1 ?_
  rw [h.recorded id, awaiting_of_state? hblocked]
  exact List.mem_append_right _ (List.mem_singleton.2 rfl)

end Interleaving

/-- Tasks that stand in line. -/
structure Line where
  /-- The tasks. -/
  tasks : Interleaving
  /-- The turns to come, next one first. -/
  queue : List TaskId := []

namespace Line

open Interleaving

variable {s : Setup} {l : Line} {k : Nat}

/-- What is left open when tasks stand in line. -/
inductive Beat where
  /-- The host starts a task. -/
  | start (job : Job)
  /-- The first task in the queue goes on, and is answered on the spot some number of times. -/
  | turn (replies : List ((op : Ask) → Except Failure op.Reply))
  /-- A task that pauses is answered. -/
  | reply (task : TaskId) (replies : (op : Ask) → Except Failure op.Reply)

/-- The tasks have moved on, and those that are new go to the end of the queue. -/
def onwards (l : Line) (queue : List TaskId) (tasks : Interleaving) : Line where
  tasks := tasks
  queue := queue ++ List.range' l.tasks.parties.length
    (tasks.parties.length - l.tasks.parties.length)

/-- Let something happen. What does not fit changes nothing. -/
def beat (l : Line) : Beat → Line
  | .start job => l.onwards l.queue (l.tasks.startAll [job])
  | .turn replies =>
    match l.queue with
    | [] => l
    | id :: rest => l.onwards rest ((turnMoves id replies).foldl move l.tasks)
  | .reply id replies =>
    match l.tasks.state? id with
    | some (.blocked _ _) => l.onwards (l.queue ++ [id]) (l.tasks.move (.reply id replies))
    | _ => l

/-- What has become after things happened in order. -/
def run (s : Setup) (beats : List Beat) : Line := beats.foldl beat { tasks := { setup := s } }

/-- The host dispatches a decision. -/
def dispatch (l : Line) (d : Decision) (project : Project) (options : Option Options) :
    Option (Except Failure (List TaskId)) × Line :=
  let (r, tasks) := l.tasks.conduct (Dispatch.dispatch d project options)
  (r, l.onwards l.queue tasks)

/-- The tasks from a number on have not had a turn, and they are in the queue in the order of their
numbers. -/
structure Queued (l : Line) (k : Nat) : Prop where
  /-- The number is that of a task, or the next one. -/
  le : k ≤ l.tasks.parties.length
  /-- These are the tasks that have not had a turn. -/
  newcomers : l.queue.filter (k ≤ ·) = List.range' k (l.tasks.parties.length - k)
  /-- The tasks before have had a turn. -/
  begun : ∀ c, c < k → ¬l.tasks.Fresh c
  /-- These tasks have not asked anything. -/
  idle : ∀ c op, k ≤ c → .asked c op ∉ l.tasks.moments
  /-- Tasks have asked for the first time in the order of their numbers. -/
  order : InOrder l.tasks.moments

section Queued

/-- New tasks go to the end of the queue. -/
theorem filter_onwards {queue : List TaskId} {n n' : Nat} (hk : k ≤ n) (hn : n ≤ n')
    (hqueue : queue.filter (k ≤ ·) = List.range' k (n - k)) :
    (queue ++ List.range' n (n' - n)).filter (k ≤ ·) = List.range' k (n' - k) := by
  have hnew : (List.range' n (n' - n)).filter (k ≤ ·) = List.range' n (n' - n) := by
    refine List.filter_eq_self.2 fun c hc => ?_
    rw [List.mem_range'_1] at hc
    exact decide_eq_true (Nat.le_trans hk hc.1)
  have hsplit := @List.range'_append_1 k (n - k) (n' - n)
  rw [show k + (n - k) = n by omega, show n - k + (n' - n) = n' - k by omega] at hsplit
  rw [List.filter_append, hqueue, hnew, hsplit]

/-- The host may start tasks. -/
theorem Queued.startAll (h : l.Queued k) (jobs : List Job) :
    (l.onwards l.queue (l.tasks.startAll jobs)).Queued k := by
  obtain ⟨hmoments, hlength, hparties, -⟩ := l.tasks.startAll_facts jobs
  have hle : l.tasks.parties.length ≤ (l.tasks.startAll jobs).parties.length := by omega
  exact {
    le := Nat.le_trans h.le hle
    newcomers := filter_onwards h.le hle h.newcomers
    begun := fun c hc hfresh => by
      obtain ⟨hnil, program, hready⟩ := hfresh
      apply h.begun c hc
      refine ⟨?_, program, ?_⟩
      · rw [← hnil, Interleaving.dialogue, Interleaving.dialogue]
        exact congrArg _ hmoments.symm
      · rw [← hready, state?, state?]
        exact congrArg _ (hparties c (Nat.lt_of_lt_of_le hc h.le)).symm
    idle := fun c op hc => by
      show .asked c op ∉ (l.tasks.startAll jobs).moments
      rw [hmoments]
      exact h.idle c op hc
    order := by
      show InOrder (l.tasks.startAll jobs).moments
      rw [hmoments]
      exact h.order }

/-- One task may go on, be it one that has had a turn or the first one that has not. -/
theorem Queued.solo (h : l.Queued k) {k' : Nat} {id : TaskId} {queue : List TaskId}
    {y : Interleaving} (hsolo : Solo id l.tasks y) (hk : k ≤ k')
    (hk' : k' ≤ l.tasks.parties.length) (hid : id < k') (hnew : ∀ c, k ≤ c → c < k' → c = id)
    (hqueue : queue.filter (k' ≤ ·) = List.range' k' (l.tasks.parties.length - k'))
    (hbegun : ¬y.Fresh id)
    (hasked : (∃ op, .asked id op ∈ l.tasks.moments) ∨ k ≤ id ∨ y.moments = l.tasks.moments) :
    (l.onwards queue y).Queued k' := by
  obtain ⟨new, hmoments, htask⟩ := hsolo.moments
  exact {
    le := Nat.le_trans hk' hsolo.length
    newcomers := filter_onwards hk' hsolo.length hqueue
    -- No other task goes on, so only the state of this one is new.
    begun := fun c hc hfresh => by
      by_cases hself : c = id
      · rw [hself] at hfresh
        exact hbegun hfresh
      · have hlt : c < k := by
          by_contra hge
          exact hself (hnew c (Nat.le_of_not_lt hge) hc)
        exact h.begun c hlt (hsolo.fresh hself (Nat.lt_of_lt_of_le hlt h.le) hfresh)
    idle := fun c op hc hmem => by
      have hmem : .asked c op ∈ y.moments := hmem
      rw [hmoments, List.mem_append] at hmem
      rcases hmem with hmem | hmem
      · exact h.idle c op (Nat.le_trans hk hc) hmem
      · obtain rfl : c = id := htask _ hmem
        exact absurd hid (Nat.not_lt.2 hc)
    order := by
      show InOrder y.moments
      rcases hasked with hbefore | hfirst | hsame
      · rw [hmoments]
        exact h.order.append htask (Or.inl hbefore)
      · -- Everyone who has asked so far has a number below that of the newcomers.
        rw [hmoments]
        refine h.order.append htask (Or.inr fun c op hc => ?_)
        by_contra hge
        exact h.idle c op (Nat.le_trans hfirst (Nat.le_of_not_lt hge)) hc
      · rw [hsame]
        exact h.order }

end Queued

/-- What holds of tasks that stand in line, whatever happened. -/
structure Kept (s : Setup) (l : Line) : Prop where
  /-- They are tasks that take turns. -/
  tasks : ∃ moves, l.tasks = Interleaving.run s moves
  /-- Those that have not had a turn are in the queue in the order of their numbers. -/
  queued : ∃ k, l.Queued k

section Kept

theorem Kept.reachable (h : l.Kept s) : Reachable s l.tasks := by
  obtain ⟨moves, hmoves⟩ := h.tasks
  rw [hmoves]
  exact Interleaving.run_reachable s moves

/-- Whatever moves the tasks have made, they are tasks that take turns. -/
theorem Kept.moves (h : l.Kept s) (later : List Move) :
    ∃ moves, later.foldl move l.tasks = Interleaving.run s moves := by
  obtain ⟨moves, hmoves⟩ := h.tasks
  refine ⟨moves ++ later, ?_⟩
  rw [hmoves, Interleaving.run, Interleaving.run, List.foldl_append]

theorem Kept.startAll (h : l.Kept s) (jobs : List Job) :
    (l.onwards l.queue (l.tasks.startAll jobs)).Kept s := by
  obtain ⟨k, hk⟩ := h.queued
  exact ⟨h.moves _, k, hk.startAll jobs⟩

/-- If the first task in a queue is new, it has the lowest number that is, and the other new ones
come after it. -/
theorem newcomers_cons {id k n : Nat} {rest : List Nat} (hid : k ≤ id)
    (h : (id :: rest).filter (k ≤ ·) = List.range' k n) :
    id = k ∧ 0 < n ∧ rest.filter (k + 1 ≤ ·) = List.range' (k + 1) (n - 1) := by
  rw [List.filter_cons_of_pos (by simpa using hid)] at h
  cases n with
  | zero => cases h
  | succ n =>
    rw [List.range'_succ] at h
    obtain ⟨rfl, hrest⟩ := List.cons.inj h
    have habove : ∀ c, decide (id + 1 ≤ c) = (decide (id + 1 ≤ c) && decide (id ≤ c)) := by
      intro c
      by_cases hc : id + 1 ≤ c
      · simp [hc, Nat.le_of_succ_le hc]
      · simp [hc]
    refine ⟨rfl, Nat.succ_pos n, ?_⟩
    calc rest.filter (id + 1 ≤ ·)
        = (rest.filter (id ≤ ·)).filter (id + 1 ≤ ·) := by
          rw [List.filter_filter]
          exact List.filter_congr fun c _ => habove c
      _ = (List.range' (id + 1) n).filter (id + 1 ≤ ·) := by rw [hrest]
      _ = List.range' (id + 1) n := by
          refine List.filter_eq_self.2 fun c hc => ?_
          rw [List.mem_range'_1] at hc
          exact decide_eq_true hc.1

/-- The first task in the queue may take its turn. -/
theorem Kept.turn (h : l.Kept s) {id : TaskId} {rest : List TaskId} (hqueue : l.queue = id :: rest)
    (replies : List ((op : Ask) → Except Failure op.Reply)) :
    (l.onwards rest ((turnMoves id replies).foldl move l.tasks)).Kept s := by
  obtain ⟨moves, hmoves⟩ := h.tasks
  obtain ⟨k, hk⟩ := h.queued
  refine ⟨h.moves _, ?_⟩
  have hof : ∀ m ∈ turnMoves id replies, m.IsOf id := fun m => isOf_turnMoves
  have hsolo := foldl_move_solo hof l.tasks
  have hbegun : ¬((turnMoves id replies).foldl move l.tasks).Fresh id := by
    rintro ⟨-, program, hready⟩
    exact resting_turn l.tasks id replies program hready
  have hnewcomers := hk.newcomers
  by_cases hid : id < k
  · -- It has had a turn before, so it has asked something, or it does nothing.
    rw [hqueue, List.filter_cons_of_neg (by simpa using hid)] at hnewcomers
    refine ⟨k, hk.solo hsolo (Nat.le_refl k) hk.le hid (fun c _ _ => by omega) hnewcomers hbegun ?_⟩
    have hfresh := hk.begun id hid
    rw [hmoves] at hfresh ⊢
    by_cases hready : ∃ program, (Interleaving.run s moves).state? id = some (.ready program)
    · obtain ⟨program, hprogram⟩ := hready
      exact Or.inl (run_asked_of_ready hfresh hprogram)
    · by_cases hblocked : ∃ op next, (Interleaving.run s moves).state? id = some (.blocked op next)
      · obtain ⟨op, next, hop⟩ := hblocked
        exact Or.inl ⟨op, (Interleaving.run_reachable s moves).asked_of_blocked hop⟩
      · refine Or.inr (Or.inr ?_)
        rw [foldl_move_of_spent hof (fun program hp => hready ⟨program, hp⟩)
          fun op next hop => hblocked ⟨op, next, hop⟩]
  · -- It has not had a turn before, so it is the first one that has not.
    rw [hqueue] at hnewcomers
    obtain ⟨rfl, hsome, hlater⟩ := newcomers_cons (Nat.le_of_not_lt hid) hnewcomers
    refine ⟨id + 1, hk.solo hsolo (Nat.le_succ id) (by omega) (Nat.lt_succ_self id)
      (fun c _ _ => by omega) ?_ hbegun (Or.inr (Or.inl (Nat.le_refl id)))⟩
    rw [hlater, Nat.sub_sub]

/-- A task that pauses may be answered. -/
theorem Kept.reply (h : l.Kept s) {id : TaskId} {op : Ask}
    {next : Except Failure op.Reply → Program Job.Result}
    (hid : l.tasks.state? id = some (.blocked op next))
    (replies : (op : Ask) → Except Failure op.Reply) :
    (l.onwards (l.queue ++ [id]) (l.tasks.move (.reply id replies))).Kept s := by
  obtain ⟨k, hk⟩ := h.queued
  refine ⟨h.moves [.reply id replies], k, ?_⟩
  have hasked := h.reachable.asked_of_blocked hid
  have hlt : id < k := by
    by_contra hge
    exact hk.idle id op (Nat.le_of_not_lt hge) hasked
  refine hk.solo (move_solo (m := .reply id replies) rfl l.tasks) (Nat.le_refl k) hk.le hlt
    (fun c _ _ => by omega) ?_ ?_ (Or.inl ⟨op, hasked⟩)
  · have hnone : [id].filter (k ≤ ·) = [] := by simpa using hlt
    rw [List.filter_append, hnone, List.append_nil, hk.newcomers]
  · rintro ⟨hnil, -⟩
    rw [move, hid, dialogue_answer, if_pos rfl] at hnil
    simp at hnil

theorem Kept.beat (h : l.Kept s) (b : Beat) : (l.beat b).Kept s := by
  cases b with
  | start job => exact h.startAll [job]
  | turn replies =>
    rw [Line.beat]
    split
    · exact h
    · next id rest hqueue => exact h.turn hqueue replies
  | reply id replies =>
    rw [Line.beat]
    split
    · next op next hid => exact h.reply hid replies
    · exact h

theorem Kept.beats (h : l.Kept s) (later : List Beat) : (later.foldl Line.beat l).Kept s := by
  induction later generalizing l with
  | nil => exact h
  | cons b later ih => exact ih (h.beat b)

theorem run_kept (s : Setup) (beats : List Beat) : (run s beats).Kept s := by
  refine Kept.beats ⟨⟨[], rfl⟩, 0, ?_⟩ beats
  refine ⟨Nat.le_refl _, rfl, fun c hc => ?_, fun c op _ hmem => ?_, fun pre c op post hsplit => ?_⟩
  · cases hc
  · cases hmem
  · simp at hsplit

end Kept

end Line

namespace Interleaving

variable {s : Setup} {x y : Interleaving}

/-- A task starts others under higher and higher numbers. -/
theorem Reachable.spawns_lt (h : Reachable s x) (b : TaskId) :
    ((x.spawns b).map Prod.fst).Pairwise (· < ·) := by
  revert b
  refine h.induction (P := fun x => ∀ b, ((x.spawns b).map Prod.fst).Pairwise (· < ·)) ?_ ?_
  · intro b
    exact List.Pairwise.nil
  · intro x y hx ih hstep b
    have hsame : y.spawns b = x.spawns b → ((y.spawns b).map Prod.fst).Pairwise (· < ·) := by
      intro heq
      rw [heq]
      exact ih b
    cases hstep with
    | @spawn id name job next hid =>
      rw [spawns_answer, spawns_add]
      split
      · -- All numbers so far are those of tasks that take part.
        rw [List.map_append, List.pairwise_append]
        refine ⟨ih b, by simp [Answer.spawned?], fun c hc c' hc' => ?_⟩
        obtain ⟨⟨c, job'⟩, hmem, rfl⟩ := List.mem_map.1 hc
        obtain rfl : c' = x.parties.length := by simpa [Answer.spawned?] using hc'
        exact lt_length_of_kin? x (hx.kinship.started b c job' hmem).2
      · rw [List.append_nil]
        exact ih b
    | @reply id op next hid reply =>
      have hnone : (⟨op, reply⟩ : Answer).spawned? = none :=
        Answer.spawned?_of_not_isPrompt (hx.orderly.pauses id op next hid)
      exact hsame (by simp [hnone])
    | pause hid hop => exact hsame (by simp)
    | _ => exact hsame (by simp [Answer.spawned?])

section Appointed

variable {o : Options} {d : Decision} {tasks : List (TaskId × Job)}

/-- The tasks of a decision and those that they have started have higher and higher numbers. -/
theorem Appointed.company_lt (h : x.Appointed o d tasks) (hx : Reachable s x)
    (hlt : (tasks.map Prod.fst).Pairwise (· < ·)) :
    ((x.company tasks).map Prod.fst).Pairwise (· < ·) := by
  by_cases hd : d = .registerFirst
  · subst hd
    obtain ⟨c, p, rfl, hcompany, -, -⟩ := h.exists_chain
    rw [hcompany, List.map_cons, List.pairwise_cons]
    refine ⟨fun c' hc' => ?_, hx.spawns_lt c⟩
    obtain ⟨⟨c', job⟩, hmem, rfl⟩ := List.mem_map.1 hc'
    exact (hx.kinship.started c c' job hmem).1
  · rw [h.company_eq hx hd]
    exact hlt

end Appointed

end Interleaving

namespace Line

open Interleaving

variable {s : Setup} {l : Line} {o : Options} {d : Decision} {tasks : List (TaskId × Job)}

/-- What holds of tasks that were started for a decision, and of those that they have started, when
tasks stand in line. -/
structure Ordered (l : Line) (d : Decision) (ids : List TaskId) : Prop where
  /-- What they have had done so far are the first actions of the decision, in order. -/
  begun : l.tasks.executed (l.tasks.retinue ids) <+: d.actions
  /-- As soon as none of them is ready, they have had done what the decision calls for, in order. -/
  settled : (∀ c ∈ l.tasks.retinue ids, l.tasks.Resting c) →
    l.tasks.executed (l.tasks.retinue ids) = d.prescribed (l.tasks.registered ids)

/-- Of numbers in order, those below a bound come first. -/
theorem filter_lt_initial {ids : List TaskId} (hids : ids.Pairwise (· < ·)) (k : Nat) :
    ids.filter (· < k) <+: ids := by
  induction ids with
  | nil => exact List.prefix_refl _
  | cons c ids ih =>
    obtain ⟨hc, hrest⟩ := List.pairwise_cons.1 hids
    by_cases hlt : c < k
    · rw [List.filter_cons_of_pos (by simpa using hlt)]
      exact List.cons_prefix_cons.2 ⟨rfl, ih hrest⟩
    · have hnone : (c :: ids).filter (· < k) = [] := by
        refine List.filter_eq_nil_iff.2 fun c' hc' => ?_
        rw [decide_eq_true_iff, Nat.not_lt]
        rcases List.mem_cons.1 hc' with rfl | hc'
        · exact Nat.le_of_not_lt hlt
        · exact Nat.le_trans (Nat.le_of_not_lt hlt) (Nat.le_of_lt (hc c' hc'))
      rw [hnone]
      exact List.nil_prefix

/-- Between moves, a task of a decision that has had a turn has asked for its action. -/
theorem asked_of_begun {moves : List Move}
    (h : (Interleaving.run s moves).Appointed o d tasks) {e : TaskId × Job}
    (he : e ∈ (Interleaving.run s moves).company tasks)
    (hfresh : ¬(Interleaving.run s moves).Fresh e.1) :
    ∃ op, .asked e.1 op ∈ (Interleaving.run s moves).moments := by
  have hx := Interleaving.run_reachable s moves
  by_cases hready : ∃ program, (Interleaving.run s moves).state? e.1 = some (.ready program)
  · obtain ⟨program, hprogram⟩ := hready
    exact run_asked_of_ready hfresh hprogram
  · obtain ⟨p, hp, hjob⟩ := h.company_party hx he
    obtain ⟨action, -, haction⟩ := h.exists_action hx he
    have hroot := assignments_root h.root
      ((hx.company_jobs h.jobs h.party).subset (List.mem_map_of_mem he))
    have hasked := hx.asked_resting hp (hjob ▸ haction) (hjob ▸ hroot)
      fun program hprogram => hready ⟨program, hprogram⟩
    have hmem : action ∈ ((Interleaving.run s moves).asked e.1).filterMap Ask.action? := by
      rw [hasked]
      exact List.mem_singleton.2 rfl
    obtain ⟨op, hop, -⟩ := List.mem_filterMap.1 hmem
    exact ⟨op, mem_asked.1 hop⟩

/-- The tasks of a decision have asked in the order of their numbers, and those that have had a turn
have asked. -/
theorem Kept.askers_eq (h : l.Kept s) (happointed : l.tasks.Appointed o d tasks)
    (hlt : (tasks.map Prod.fst).Pairwise (· < ·)) :
    ∃ k, l.tasks.moments.filterMap (Moment.asker? (l.tasks.retinue (tasks.map Prod.fst))) =
      (l.tasks.retinue (tasks.map Prod.fst)).filter (· < k) := by
  obtain ⟨moves, hmoves⟩ := h.tasks
  obtain ⟨k, hk⟩ := h.queued
  have hx := h.reachable
  have hids : (l.tasks.retinue (tasks.map Prod.fst)).Pairwise (· < ·) := by
    rw [retinue_eq]
    exact happointed.company_lt hx hlt
  -- Each task asks at most once, so that nobody stands twice among those that have asked.
  have hone : ∀ c ∈ l.tasks.retinue (tasks.map Prod.fst),
      (l.tasks.moments.filterMap (·.askedBy? c)).length ≤ 1 := by
    intro c hc
    obtain ⟨p, action, hp, haction⟩ := happointed.exists_errand hx hc
    show (l.tasks.asked c).length ≤ 1
    rcases hx.asked_errand hp haction with hnone | ⟨op, hasked, -⟩
    · rw [hnone]
      exact Nat.zero_le 1
    · rw [hasked]
      exact Nat.le_refl 1
  refine ⟨k, (hk.order.askers_lt hone).eq_of_mem_iff (hids.filter _) fun c => ?_⟩
  rw [mem_askers, List.mem_filter, decide_eq_true_iff]
  refine and_congr_right fun hc => ⟨?_, fun hbelow => ?_⟩
  · rintro ⟨op, hop⟩
    by_contra hge
    exact hk.idle c op (Nat.le_of_not_lt hge) hop
  · rw [retinue_eq] at hc
    obtain ⟨e, he, rfl⟩ := List.mem_map.1 hc
    have hfresh := hk.begun e.1 hbelow
    rw [hmoves] at happointed he hfresh ⊢
    exact asked_of_begun happointed he hfresh

/-- What tasks of a decision have had done is told by who has asked. -/
theorem executed_eq_askers {x : Interleaving} (hx : Reachable s x) (h : x.Appointed o d tasks) :
    x.executed (x.retinue (tasks.map Prod.fst)) =
      (x.moments.filterMap (Moment.asker? (x.retinue (tasks.map Prod.fst)))).filterMap
        fun c => x.parties[c]?.bind fun p => p.job.action? := by
  rw [executed, List.filterMap_filterMap]
  refine List.filterMap_congr fun m hm => ?_
  cases m with
  | answered task a => rfl
  | asked c op =>
    by_cases hc : c ∈ x.retinue (tasks.map Prod.fst)
    · rw [Moment.executed?, Moment.asker?, if_pos hc, if_pos hc, Option.bind_some]
      obtain ⟨p, action, hp, haction⟩ := h.exists_errand hx hc
      rw [hp, Option.bind_some, haction]
      obtain ⟨-, hexec⟩ := hx.errand_of_asked hp haction (mem_asked.2 hm)
      exact hexec.action?
    · rw [Moment.executed?, Moment.asker?, if_neg hc, if_neg hc, Option.bind_none]

/-- When tasks stand in line, the tasks of a decision have its actions done in their order. -/
theorem Kept.ordered (h : l.Kept s) (happointed : l.tasks.Appointed o d tasks)
    (hlt : (tasks.map Prod.fst).Pairwise (· < ·)) : l.Ordered d (tasks.map Prod.fst) := by
  have hx := h.reachable
  have hbegun : l.tasks.executed (l.tasks.retinue (tasks.map Prod.fst)) <+: d.actions := by
    obtain ⟨k, hk⟩ := h.askers_eq happointed hlt
    have hids : (l.tasks.retinue (tasks.map Prod.fst)).Pairwise (· < ·) := by
      rw [retinue_eq]
      exact happointed.company_lt hx hlt
    rw [executed_eq_askers hx happointed, hk]
    refine ((filter_lt_initial hids k).filterMap _).trans ?_
    have hactions : (l.tasks.retinue (tasks.map Prod.fst)).filterMap
        (fun c => l.tasks.parties[c]?.bind fun p => p.job.action?) =
          (l.tasks.company tasks).filterMap fun e => e.2.action? := by
      rw [retinue_eq, List.filterMap_map]
      refine List.filterMap_congr fun e he => ?_
      obtain ⟨p, hp, hjob⟩ := happointed.company_party hx he
      show (l.tasks.parties[e.1]?.bind fun p => p.job.action?) = e.2.action?
      rw [hp, Option.bind_some, hjob]
    rw [hactions]
    exact happointed.actions_initial hx
  refine ⟨hbegun, fun hrest => ?_⟩
  -- Both are the first actions of the decision, and equally many.
  have hperm := (hx.contained happointed).settled hrest
  have hprescribed := d.prescribed_initial (l.tasks.registered (tasks.map Prod.fst))
  exact (List.prefix_of_prefix_length_le hbegun hprescribed
    (Nat.le_of_eq hperm.length_eq)).eq_of_length hperm.length_eq

/-- Whatever happens later, the tasks have made moves. -/
theorem exists_moves (l : Line) (later : List Beat) :
    ∃ moves : List Move, (later.foldl Line.beat l).tasks = moves.foldl move l.tasks := by
  induction later generalizing l with
  | nil => exact ⟨[], rfl⟩
  | cons b later ih =>
    obtain ⟨first, hfirst⟩ : ∃ moves : List Move, (l.beat b).tasks = moves.foldl move l.tasks := by
      cases b with
      | start job => exact ⟨[.start job], rfl⟩
      | turn replies =>
        rw [Line.beat]
        split
        · exact ⟨[], rfl⟩
        · exact ⟨turnMoves _ replies, rfl⟩
      | reply id replies =>
        rw [Line.beat]
        split
        · exact ⟨[.reply id replies], rfl⟩
        · exact ⟨[], rfl⟩
    obtain ⟨rest, hrest⟩ := ih (l.beat b)
    refine ⟨first ++ rest, ?_⟩
    rw [List.foldl_append, ← hfirst]
    exact hrest

end Line

namespace Interleaving

/-- A dispatch, whenever it is made, starts tasks under the next numbers and returns before any of
them has asked for anything. Whatever happens later, the tasks are contained; and when tasks stand
in line, they have the actions of the decision done in their order. -/
theorem dispatch_contained (s : Setup) (d : Decision) (project : Project)
    (options : Option Options) :
    (∀ moves : List Move, ∃ ids y,
      (run s moves).conduct (Dispatch.dispatch d project options) = (some (.ok ids), y) ∧
      ids = List.range' (run s moves).parties.length ids.length ∧
      y.moments = (run s moves).moments ∧
      ∀ later : List Move, (later.foldl move y).Contained d ids) ∧
    ∀ beats : List Line.Beat, ∃ ids l,
      (Line.run s beats).dispatch d project options = (some (.ok ids), l) ∧
      ∀ later : List Line.Beat, (later.foldl Line.beat l).tasks.Contained d ids ∧
        (later.foldl Line.beat l).Ordered d ids := by
  constructor
  · intro moves
    set x := run s moves with hx
    set jobs := Dispatch.jobs (Dispatch.projectOptions project options) d with hjobs
    refine ⟨_, _, x.conduct_dispatch d project options, by rw [List.length_range'],
      (x.startAll_facts jobs).1, fun later => ?_⟩
    obtain ⟨tasks, hids, happointed⟩ := x.appointed_startAll d project options later
    have hreach : Reachable s (later.foldl move (x.startAll jobs)) :=
      ((run_reachable s moves).trans (foldl_move_steps x _)).trans (foldl_move_steps _ later)
    rw [← hids]
    exact hreach.contained happointed
  · intro beats
    set l := Line.run s beats with hl
    set jobs := Dispatch.jobs (Dispatch.projectOptions project options) d with hjobs
    have hdispatch : l.dispatch d project options =
        (some (.ok (List.range' l.tasks.parties.length jobs.length)),
          l.onwards l.queue (l.tasks.startAll jobs)) := by
      rw [Line.dispatch, conduct_dispatch]
    refine ⟨_, _, hdispatch, fun later => ?_⟩
    -- The line is kept by the dispatch and by all beats after it.
    have hkept := ((Line.run_kept s beats).startAll jobs).beats later
    -- Its tasks move as in some interleaving, so the first part applies to them.
    obtain ⟨moves, hmoves⟩ := Line.exists_moves (l.onwards l.queue (l.tasks.startAll jobs)) later
    obtain ⟨tasks, hids, happointed⟩ := l.tasks.appointed_startAll d project options moves
    have happointed :
        (later.foldl Line.beat (l.onwards l.queue (l.tasks.startAll jobs))).tasks.Appointed
        (Dispatch.projectOptions project options) d tasks := by
      rw [hmoves]
      exact happointed
    have hreach : Reachable s
        (later.foldl Line.beat (l.onwards l.queue (l.tasks.startAll jobs))).tasks := by
      obtain ⟨ms, hms⟩ := hkept.tasks
      rw [hms]
      exact run_reachable s ms
    rw [← hids]
    refine ⟨hreach.contained happointed, hkept.ordered happointed ?_⟩
    rw [hids]
    exact List.pairwise_lt_range'

end Interleaving

end IndexSync
