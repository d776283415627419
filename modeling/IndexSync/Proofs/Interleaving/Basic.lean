import IndexSync.Activation.Jobs
import IndexSync.Proofs.Dialogue
import IndexSync.Task.Pool
import Mathlib.Data.List.Induction
import Mathlib.Logic.Relation

/-!
# Interleavings

Any number of tasks take turns in any order. A task goes on until it ends or pauses at a question;
questions that are answered on the spot do not make it pause. A task that pauses may be answered at
any later time, with any reply or failure: whatever the service, the host, the disk and the clock
do is some choice of replies. All that tasks share are the claims on projects.

* `Interleaving.run s moves` — the state after a list of moves; the moves say which tasks are
  started, which task goes on, and what the replies are, so every interleaving is such a list;
* `Interleaving.Step` — the single effects of which a move is made up;
* `Interleaving.Reachable.induction` — what holds at first and survives every step holds ever
  after;
* `Interleaving.Reachable.led` — every task stands where its dialogue has led its program;
* `Interleaving.Reachable.follows` — every task keeps to what the program of its job ensures.
-/

namespace IndexSync

/-- Something that happens in an interleaving. -/
inductive Moment where
  /-- A task has asked a question and pauses until it is answered. -/
  | asked (task : TaskId) (op : Ask)
  /-- A question of a task was answered. -/
  | answered (task : TaskId) (answer : Answer)

/-- The answer that a task was given at a moment. -/
def Moment.answerTo? (id : TaskId) : Moment → Option Answer
  | .asked _ _ => none
  | .answered task answer => if task = id then some answer else none

/-- A job that is an activation, or the part of one that follows a successful probe. -/
def Job.isActivation : Job → Bool
  | .activation _ => true
  | .resolution _ => true
  | _ => false

/-- A task that takes part in an interleaving. -/
structure Party where
  /-- What it was set to do. -/
  job : Job
  /-- The activation it is attributed to. -/
  origin : TaskId
  /-- Where it stands. -/
  state : Task.State

/-- What is left of the program of a task. -/
def Task.State.residual : Task.State → Program Job.Result
  | .ready program => program
  | .blocked op next => .ask op next
  | .ended result => .done result

/-- Tasks that take turns, with what they share and what has happened so far. -/
structure Interleaving where
  /-- What activations have in common. -/
  setup : Setup
  /-- The keys of projects that activations are busy with. -/
  inFlight : List String := []
  /-- All tasks, by number. -/
  parties : List Party := []
  /-- What has happened so far, in order. -/
  moments : List Moment := []

/-- A choice that is left open: who goes on, and what the replies are. -/
inductive Move where
  /-- The host starts a task. -/
  | start (job : Job)
  /-- A task that is ready goes on until it pauses or ends. -/
  | go (task : TaskId)
  /-- A task that pauses is answered. The reply is picked from one for each question. -/
  | reply (task : TaskId) (replies : (op : Ask) → Except Failure op.Reply)

namespace Interleaving

/-- What a task has asked and been answered. -/
def dialogue (x : Interleaving) (id : TaskId) : Dialogue := x.moments.filterMap (·.answerTo? id)

/-- Where a task stands. -/
def state? (x : Interleaving) (id : TaskId) : Option Task.State := x.parties[id]?.map Party.state

/-- Let a task stand at a state. -/
def setState (x : Interleaving) (id : TaskId) (state : Task.State) : Interleaving :=
  { x with parties := x.parties.modify id fun p => { p with state } }

/-- Let other keys be claimed. -/
def setInFlight (x : Interleaving) (keys : List String) : Interleaving :=
  { x with inFlight := keys }

/-- Something happens. -/
def note (x : Interleaving) (m : Moment) : Interleaving := { x with moments := x.moments ++ [m] }

/-- A task is answered and can go on with a program. -/
def answer (x : Interleaving) (id : TaskId) (a : Answer) (program : Program Job.Result) :
    Interleaving :=
  (x.setState id (.ready program)).note (.answered id a)

/-- The activation that a task is attributed to. -/
def originOf (x : Interleaving) (id : TaskId) : TaskId := (x.parties[id]?.map Party.origin).getD id

/-- Add a task that is ready to do a job. An activation is attributed to itself, any other task to
the given one. -/
def add (x : Interleaving) (job : Job) (origin : TaskId) : Interleaving :=
  let origin := if job.isActivation then x.parties.length else origin
  { x with parties := x.parties ++ [⟨job, origin, .ready (job.program x.setup)⟩] }

/-- The reply to a question that is answered on the spot, and what tasks share afterwards. -/
def promptly (x : Interleaving) (id : TaskId) :
    (op : Ask) → Option (Except Failure op.Reply × Interleaving)
  | .emit _ => some (.ok (), x)
  | .enter key =>
    if x.inFlight.contains key then some (.ok false, x)
    else some (.ok true, x.setInFlight (key :: x.inFlight))
  | .leave key => some (.ok (), x.setInFlight (x.inFlight.erase key))
  | .spawn _ job => some (.ok x.parties.length, x.add job (x.originOf id))
  | _ => none

/-- Let a task go on with a program until it ends or pauses. -/
def proceed (id : TaskId) : Program Job.Result → Interleaving → Interleaving
  | .done r, x => x.setState id (.ended r)
  | .ask op next, x =>
    match x.promptly id op with
    | some (reply, x) => proceed id (next reply) (x.answer id ⟨op, reply⟩ (next reply))
    | none => (x.setState id (.blocked op next)).note (.asked id op)

/-- Make a move. One that does not fit changes nothing. -/
def move (x : Interleaving) : Move → Interleaving
  | .start job => x.add job x.parties.length
  | .go id =>
    match x.state? id with
    | some (.ready program) => x.proceed id program
    | _ => x
  | .reply id replies =>
    match x.state? id with
    | some (.blocked op next) => x.answer id ⟨op, replies op⟩ (next (replies op))
    | _ => x

/-- The state after moves in order. -/
def run (s : Setup) (moves : List Move) : Interleaving := moves.foldl move { setup := s }

theorem run_append (s : Setup) (moves : List Move) (m : Move) :
    run s (moves ++ [m]) = (run s moves).move m := by
  simp [run]

section Effects

variable (x : Interleaving) (id i : TaskId)

@[simp]
theorem setup_setState (state : Task.State) : (x.setState id state).setup = x.setup := rfl

@[simp]
theorem inFlight_setState (state : Task.State) : (x.setState id state).inFlight = x.inFlight := rfl

@[simp]
theorem moments_setState (state : Task.State) : (x.setState id state).moments = x.moments := rfl

@[simp]
theorem dialogue_setState (state : Task.State) :
    (x.setState id state).dialogue i = x.dialogue i := rfl

@[simp]
theorem parties_setState (state : Task.State) :
    (x.setState id state).parties[i]? =
      if id = i then x.parties[i]?.map fun p => { p with state } else x.parties[i]? := by
  simp only [setState, List.getElem?_modify]
  split <;> simp

@[simp]
theorem length_parties_setState (state : Task.State) :
    (x.setState id state).parties.length = x.parties.length := by
  simp [setState]

@[simp]
theorem setup_setInFlight (keys : List String) : (x.setInFlight keys).setup = x.setup := rfl

@[simp]
theorem inFlight_setInFlight (keys : List String) : (x.setInFlight keys).inFlight = keys := rfl

@[simp]
theorem parties_setInFlight (keys : List String) :
    (x.setInFlight keys).parties = x.parties := rfl

@[simp]
theorem moments_setInFlight (keys : List String) :
    (x.setInFlight keys).moments = x.moments := rfl

@[simp]
theorem dialogue_setInFlight (keys : List String) :
    (x.setInFlight keys).dialogue i = x.dialogue i := rfl

@[simp]
theorem setup_note (m : Moment) : (x.note m).setup = x.setup := rfl

@[simp]
theorem inFlight_note (m : Moment) : (x.note m).inFlight = x.inFlight := rfl

@[simp]
theorem parties_note (m : Moment) : (x.note m).parties = x.parties := rfl

@[simp]
theorem moments_note (m : Moment) : (x.note m).moments = x.moments ++ [m] := rfl

@[simp]
theorem dialogue_note_asked (op : Ask) : (x.note (.asked id op)).dialogue i = x.dialogue i := by
  simp [dialogue, Moment.answerTo?]

@[simp]
theorem dialogue_note_answered (a : Answer) :
    (x.note (.answered id a)).dialogue i = x.dialogue i ++ if id = i then [a] else [] := by
  by_cases h : id = i <;> simp [dialogue, Moment.answerTo?, h]

@[simp]
theorem setup_answer (a : Answer) (p : Program Job.Result) :
    (x.answer id a p).setup = x.setup := rfl

@[simp]
theorem inFlight_answer (a : Answer) (p : Program Job.Result) :
    (x.answer id a p).inFlight = x.inFlight := rfl

@[simp]
theorem moments_answer (a : Answer) (p : Program Job.Result) :
    (x.answer id a p).moments = x.moments ++ [.answered id a] := rfl

@[simp]
theorem dialogue_answer (a : Answer) (p : Program Job.Result) :
    (x.answer id a p).dialogue i = x.dialogue i ++ if id = i then [a] else [] := by
  simp [answer]

@[simp]
theorem parties_answer (a : Answer) (p : Program Job.Result) :
    (x.answer id a p).parties[i]? =
      if id = i then x.parties[i]?.map fun q => { q with state := .ready p }
      else x.parties[i]? := by
  simp [answer]

@[simp]
theorem length_parties_answer (a : Answer) (p : Program Job.Result) :
    (x.answer id a p).parties.length = x.parties.length := by
  simp [answer]

@[simp]
theorem setup_add (job : Job) (origin : TaskId) : (x.add job origin).setup = x.setup := rfl

@[simp]
theorem inFlight_add (job : Job) (origin : TaskId) :
    (x.add job origin).inFlight = x.inFlight := rfl

@[simp]
theorem moments_add (job : Job) (origin : TaskId) : (x.add job origin).moments = x.moments := rfl

@[simp]
theorem dialogue_add (job : Job) (origin : TaskId) :
    (x.add job origin).dialogue i = x.dialogue i := rfl

@[simp]
theorem length_parties_add (job : Job) (origin : TaskId) :
    (x.add job origin).parties.length = x.parties.length + 1 := by
  simp [add]

/-- The tasks that were there before are not touched by a new one. -/
theorem parties_add_of_lt {i : Nat} {job : Job} {origin : TaskId} (h : i < x.parties.length) :
    (x.add job origin).parties[i]? = x.parties[i]? := by
  simp [add, List.getElem?_append_left h]

/-- The new task comes last. -/
theorem parties_add_self (job : Job) (origin : TaskId) :
    (x.add job origin).parties[x.parties.length]? =
      some ⟨job, if job.isActivation then x.parties.length else origin,
        .ready (job.program x.setup)⟩ := by
  simp [add]

/-- A task that takes part once a task was added was there before or is the new one. -/
theorem parties_add_cases {i : Nat} {p : Party} {job : Job} {origin : TaskId}
    (h : (x.add job origin).parties[i]? = some p) :
    x.parties[i]? = some p ∨
      i = x.parties.length ∧
        p = ⟨job, if job.isActivation then x.parties.length else origin,
          .ready (job.program x.setup)⟩ := by
  rcases Nat.lt_trichotomy i x.parties.length with hlt | rfl | hgt
  · rw [parties_add_of_lt x hlt] at h
    exact Or.inl h
  · rw [parties_add_self, Option.some.injEq] at h
    exact Or.inr ⟨rfl, h.symm⟩
  · have hlt := (List.getElem?_eq_some_iff.1 h).1
    rw [length_parties_add] at hlt
    omega

end Effects

/-- What a task was answered is one of the moments. -/
theorem mem_dialogue {x : Interleaving} {id : TaskId} {a : Answer} :
    a ∈ x.dialogue id ↔ .answered id a ∈ x.moments := by
  rw [dialogue, List.mem_filterMap]
  constructor
  · rintro ⟨m, hm, ha⟩
    cases m with
    | asked task op => cases ha
    | answered task answer =>
      rw [Moment.answerTo?, Option.ite_none_right_eq_some] at ha
      obtain ⟨rfl, ha⟩ := ha
      obtain rfl := Option.some.inj ha
      exact hm
  · exact fun hm => ⟨_, hm, if_pos rfl⟩

/-- A task that stands at a state takes part. -/
theorem state?_eq_some {x : Interleaving} {id : TaskId} {state : Task.State} :
    x.state? id = some state ↔ ∃ p, x.parties[id]? = some p ∧ p.state = state := by
  simp [state?]

/-- A task that stands at a state has a number below that of the next task. -/
theorem lt_length_of_state? {x : Interleaving} {id : Nat} {state : Task.State}
    (h : x.state? id = some state) : id < x.parties.length := by
  obtain ⟨p, hp, -⟩ := state?_eq_some.1 h
  exact (List.getElem?_eq_some_iff.1 hp).1

/-- A task stands where it was put. -/
theorem state?_setState {x : Interleaving} {id : Nat} (h : id < x.parties.length)
    (state : Task.State) : (x.setState id state).state? id = some state := by
  rw [state?, parties_setState, if_pos rfl, List.getElem?_eq_getElem h]
  rfl

/-- The other tasks stand where they stood. -/
theorem state?_setState_of_ne (x : Interleaving) {id i : TaskId} (h : id ≠ i)
    (state : Task.State) : (x.setState id state).state? i = x.state? i := by
  rw [state?, parties_setState, if_neg h]
  rfl

/-- A task that takes part stands where it stood when another is added. -/
theorem state?_add {x : Interleaving} {id : TaskId} {state : Task.State}
    (h : x.state? id = some state) (job : Job) (origin : TaskId) :
    (x.add job origin).state? id = some state := by
  rw [state?, parties_add_of_lt x (lt_length_of_state? h)]
  exact h

/-- A task that is answered is ready to go on. -/
theorem state?_answer {x : Interleaving} {id : Nat} (h : id < x.parties.length) (a : Answer)
    (p : Program Job.Result) : (x.answer id a p).state? id = some (.ready p) :=
  state?_setState h (.ready p)

/-- The single effects of which moves are made up. -/
inductive Step (x : Interleaving) : Interleaving → Prop where
  /-- The host starts a task. -/
  | start (job : Job) : Step x (x.add job x.parties.length)
  /-- A task records an event. -/
  | tell {id : TaskId} {e : Event} {next : Except Failure Unit → Program Job.Result}
      (h : x.state? id = some (.ready (.ask (.emit e) next))) :
      Step x (x.answer id ⟨.emit e, .ok ()⟩ (next (.ok ())))
  /-- A task claims a key that is free. -/
  | claim {id : TaskId} {key : String} {next : Except Failure Bool → Program Job.Result}
      (h : x.state? id = some (.ready (.ask (.enter key) next))) (hfree : key ∉ x.inFlight) :
      Step x ((x.setInFlight (key :: x.inFlight)).answer id ⟨.enter key, .ok true⟩
        (next (.ok true)))
  /-- A task finds a key claimed. -/
  | refuse {id : TaskId} {key : String} {next : Except Failure Bool → Program Job.Result}
      (h : x.state? id = some (.ready (.ask (.enter key) next))) (htaken : key ∈ x.inFlight) :
      Step x (x.answer id ⟨.enter key, .ok false⟩ (next (.ok false)))
  /-- A task gives up its claim on a key. -/
  | release {id : TaskId} {key : String} {next : Except Failure Unit → Program Job.Result}
      (h : x.state? id = some (.ready (.ask (.leave key) next))) :
      Step x ((x.setInFlight (x.inFlight.erase key)).answer id ⟨.leave key, .ok ()⟩
        (next (.ok ())))
  /-- A task starts another. -/
  | spawn {id : TaskId} {name : String} {job : Job}
      {next : Except Failure TaskId → Program Job.Result}
      (h : x.state? id = some (.ready (.ask (.spawn name job) next))) :
      Step x ((x.add job (x.originOf id)).answer id ⟨.spawn name job, .ok x.parties.length⟩
        (next (.ok x.parties.length)))
  /-- A task pauses at a question. -/
  | pause {id : TaskId} {op : Ask} {next : Except Failure op.Reply → Program Job.Result}
      (h : x.state? id = some (.ready (.ask op next))) (hop : op.isPrompt = false) :
      Step x ((x.setState id (.blocked op next)).note (.asked id op))
  /-- A task that pauses is answered. -/
  | reply {id : TaskId} {op : Ask} {next : Except Failure op.Reply → Program Job.Result}
      (h : x.state? id = some (.blocked op next)) (reply : Except Failure op.Reply) :
      Step x (x.answer id ⟨op, reply⟩ (next reply))
  /-- A task ends. -/
  | finish {id : TaskId} {r : Except Failure Job.Result}
      (h : x.state? id = some (.ready (.done r))) : Step x (x.setState id (.ended r))

/-- An answer on the spot is a single step. -/
theorem promptly_step {x y : Interleaving} {id : TaskId} {op : Ask}
    {next : Except Failure op.Reply → Program Job.Result}
    (h : x.state? id = some (.ready (.ask op next))) {reply : Except Failure op.Reply}
    (hprompt : x.promptly id op = some (reply, y)) :
    Step x (y.answer id ⟨op, reply⟩ (next reply)) := by
  cases op with
  | emit e =>
    obtain ⟨rfl, rfl⟩ := Prod.mk.inj (Option.some.inj hprompt)
    exact .tell h
  | enter key =>
    simp only [promptly] at hprompt
    split at hprompt
    · next hkey =>
      obtain ⟨rfl, rfl⟩ := Prod.mk.inj (Option.some.inj hprompt)
      exact .refuse h (List.contains_iff_mem.1 hkey)
    · next hkey =>
      obtain ⟨rfl, rfl⟩ := Prod.mk.inj (Option.some.inj hprompt)
      exact .claim h fun hmem => hkey (List.contains_iff_mem.2 hmem)
  | leave key =>
    obtain ⟨rfl, rfl⟩ := Prod.mk.inj (Option.some.inj hprompt)
    exact .release h
  | spawn name job =>
    obtain ⟨rfl, rfl⟩ := Prod.mk.inj (Option.some.inj hprompt)
    exact .spawn h
  | _ => cases hprompt

/-- An answer on the spot is no moment of its own, and it touches no task that takes part. -/
theorem promptly_eq_some {x y : Interleaving} {id : TaskId} {op : Ask}
    {reply : Except Failure op.Reply} (h : x.promptly id op = some (reply, y)) :
    y.moments = x.moments ∧ x.parties.length ≤ y.parties.length ∧
      ∀ i : Nat, i < x.parties.length → y.parties[i]? = x.parties[i]? := by
  cases op with
  | emit e =>
    obtain ⟨-, rfl⟩ := Prod.mk.inj (Option.some.inj h)
    exact ⟨rfl, Nat.le_refl _, fun _ _ => rfl⟩
  | enter key =>
    simp only [promptly] at h
    split at h
    · obtain ⟨-, rfl⟩ := Prod.mk.inj (Option.some.inj h)
      exact ⟨rfl, Nat.le_refl _, fun _ _ => rfl⟩
    · obtain ⟨-, rfl⟩ := Prod.mk.inj (Option.some.inj h)
      exact ⟨rfl, Nat.le_refl _, fun _ _ => rfl⟩
  | leave key =>
    obtain ⟨-, rfl⟩ := Prod.mk.inj (Option.some.inj h)
    exact ⟨rfl, Nat.le_refl _, fun _ _ => rfl⟩
  | spawn name job =>
    obtain ⟨-, rfl⟩ := Prod.mk.inj (Option.some.inj h)
    refine ⟨rfl, ?_, fun i hi => parties_add_of_lt x hi⟩
    rw [length_parties_add]
    exact Nat.le_succ _
  | _ => cases h

/-- Only questions at which tasks pause are not answered on the spot. -/
theorem promptly_eq_none {x : Interleaving} {id : TaskId} {op : Ask} :
    x.promptly id op = none ↔ op.isPrompt = false := by
  cases op with
  | enter key =>
    simp only [promptly]
    split <;> simp [Ask.isPrompt]
  | _ => simp [promptly, Ask.isPrompt]

/-- A task that goes on takes single steps. -/
theorem proceed_steps {id : TaskId} {p : Program Job.Result} {x : Interleaving}
    (h : x.state? id = some (.ready p)) : Relation.ReflTransGen Step x (x.proceed id p) := by
  -- One step for each question up to the one at which the task pauses.
  induction p generalizing x with
  | done r => exact .single (.finish h)
  | ask op next ih =>
    rw [proceed]
    split
    · next reply y hy =>
      obtain ⟨-, hlength, -⟩ := promptly_eq_some hy
      have hlt := Nat.lt_of_lt_of_le (lt_length_of_state? h) hlength
      exact .head (promptly_step h hy) (ih reply (state?_answer hlt _ _))
    · next hprompt => exact .single (.pause h (promptly_eq_none.1 hprompt))

/-- A move is made up of single steps. -/
theorem move_steps (x : Interleaving) (m : Move) : Relation.ReflTransGen Step x (x.move m) := by
  cases m with
  | start job => exact .single (.start job)
  | go id =>
    simp only [move]
    split
    · exact proceed_steps ‹_›
    · exact .refl
  | reply id replies =>
    simp only [move]
    split
    · exact .single (.reply ‹_› _)
    · exact .refl

/-- An interleaving that single steps can lead to, be it within a move or between two. -/
def Reachable (s : Setup) (x : Interleaving) : Prop :=
  Relation.ReflTransGen Step { setup := s } x

/-- What holds at first and survives single steps holds of all that can be reached. -/
theorem Reachable.induction {P : Interleaving → Prop} {s : Setup} (hinit : P { setup := s })
    (hstep : ∀ x y, Reachable s x → P x → Step x y → P y) {x : Interleaving}
    (h : Reachable s x) : P x := by
  induction h with
  | refl => exact hinit
  | tail hfirst hlast ih => exact hstep _ _ hfirst ih hlast

/-- Moves lead to what single steps can lead to. -/
theorem run_reachable (s : Setup) (moves : List Move) : Reachable s (run s moves) := by
  induction moves using List.reverseRecOn with
  | nil => exact .refl
  | append_singleton moves m ih =>
    rw [run_append]
    exact ih.trans (move_steps _ m)

/-- What the state of an interleaving is bound to look like. -/
structure Orderly (s : Setup) (x : Interleaving) : Prop where
  /-- What activations have in common does not change. -/
  setup : x.setup = s
  /-- Only tasks that take part are answered. -/
  known : ∀ id : Nat, x.parties.length ≤ id → x.dialogue id = []
  /-- Tasks do not pause at questions that are answered on the spot. -/
  pauses : ∀ id op next, x.state? id = some (.blocked op next) → op.isPrompt = false

theorem Orderly.setInFlight {s : Setup} {x : Interleaving} (h : x.Orderly s) (keys : List String) :
    (x.setInFlight keys).Orderly s := ⟨h.setup, h.known, h.pauses⟩

theorem Orderly.add {s : Setup} {x : Interleaving} (h : x.Orderly s) (job : Job)
    (origin : TaskId) : (x.add job origin).Orderly s := by
  refine ⟨h.setup, fun id hid => ?_, fun id op next hstate => ?_⟩
  · rw [length_parties_add] at hid
    exact h.known id (Nat.le_of_succ_le hid)
  · obtain ⟨p, hp, hblocked⟩ := state?_eq_some.1 hstate
    rcases parties_add_cases x hp with hold | ⟨-, rfl⟩
    · exact h.pauses id op next (state?_eq_some.2 ⟨p, hold, hblocked⟩)
    · -- The new task is ready, so it does not pause.
      cases hblocked

theorem Orderly.answer {s : Setup} {x : Interleaving} (h : x.Orderly s) {id : Nat}
    (hid : id < x.parties.length) (a : Answer) (p : Program Job.Result) :
    (x.answer id a p).Orderly s := by
  refine ⟨h.setup, fun i hi => ?_, fun i op next hstate => ?_⟩
  · rw [length_parties_answer] at hi
    have hne : id ≠ i := by omega
    simp [h.known i hi, hne]
  · by_cases hi : id = i
    · subst hi
      rw [state?_answer hid, Option.some.injEq] at hstate
      cases hstate
    · exact h.pauses i op next ((state?_setState_of_ne x hi _).symm.trans hstate)

theorem Orderly.step {s : Setup} {x y : Interleaving} (h : x.Orderly s) (hstep : Step x y) :
    y.Orderly s := by
  cases hstep with
  | start job => exact h.add job _
  | tell hid => exact h.answer (lt_length_of_state? hid) _ _
  | @claim id key next hid _ =>
    exact (h.setInFlight (key :: x.inFlight)).answer (lt_length_of_state? hid) _ _
  | refuse hid _ => exact h.answer (lt_length_of_state? hid) _ _
  | @release id key next hid =>
    exact (h.setInFlight (x.inFlight.erase key)).answer (lt_length_of_state? hid) _ _
  | spawn hid =>
    refine (h.add _ _).answer ?_ _ _
    rw [length_parties_add]
    exact Nat.lt_succ_of_lt (lt_length_of_state? hid)
  | @pause id op next hid hop =>
    refine ⟨h.setup, fun i hi => ?_, fun i op' next' hstate => ?_⟩
    · simpa using h.known i (by simpa using hi)
    · change (x.setState id (.blocked op next)).state? i = _ at hstate
      by_cases hi : id = i
      · subst hi
        rw [state?_setState (lt_length_of_state? hid)] at hstate
        cases hstate
        exact hop
      · rw [state?_setState_of_ne x hi] at hstate
        exact h.pauses i op' next' hstate
  | reply hid _ => exact h.answer (lt_length_of_state? hid) _ _
  | @finish id r hid =>
    refine ⟨h.setup, fun i hi => h.known i (by simpa using hi), fun i op next hstate => ?_⟩
    by_cases hi : id = i
    · subst hi
      rw [state?_setState (lt_length_of_state? hid)] at hstate
      cases hstate
    · rw [state?_setState_of_ne x hi] at hstate
      exact h.pauses i op next hstate

/-- Every interleaving is orderly. -/
theorem Reachable.orderly {s : Setup} {x : Interleaving} (h : Reachable s x) : x.Orderly s := by
  refine h.induction ⟨rfl, fun _ _ => rfl, fun id op next h => ?_⟩ (fun _ _ _ => Orderly.step)
  simp [state?] at h

/-- Whoever was answered anything takes part. -/
theorem Reachable.exists_party {s : Setup} {x : Interleaving} (h : Reachable s x) {id : Nat}
    (hne : x.dialogue id ≠ []) : ∃ p, x.parties[id]? = some p := by
  have hlt : id < x.parties.length := by
    by_contra hge
    exact hne (h.orderly.known id (Nat.le_of_not_lt hge))
  exact ⟨_, List.getElem?_eq_getElem hlt⟩

/-- Every task stands where its dialogue has led the program of its job. -/
def Led (s : Setup) (x : Interleaving) : Prop :=
  ∀ (id : TaskId) (p : Party), x.parties[id]? = some p →
    (p.job.program s).Leads (x.dialogue id) p.state.residual

theorem Led.add {s : Setup} {x : Interleaving} (h : x.Led s) (hx : x.Orderly s) (job : Job)
    (origin : TaskId) : (x.add job origin).Led s := by
  intro id p hp
  rcases parties_add_cases x hp with hold | ⟨rfl, rfl⟩
  · exact h id p hold
  · have hnone : (x.add job origin).dialogue x.parties.length = [] := hx.known _ (Nat.le_refl _)
    rw [hnone, hx.setup]
    exact .here _

/-- Answering a question of a task, in a way that can arise, leads its program on. -/
theorem Led.answer {s : Setup} {x : Interleaving} (h : x.Led s) {id : TaskId} {state : Task.State}
    {op : Ask} {next : Except Failure op.Reply → Program Job.Result}
    (hid : x.state? id = some state) (hstate : state.residual = .ask op next)
    {reply : Except Failure op.Reply} (hreply : op.Permits reply) :
    (x.answer id ⟨op, reply⟩ (next reply)).Led s := by
  intro i p hp
  rw [parties_answer] at hp
  by_cases hi : id = i
  · subst hi
    obtain ⟨q, hq, rfl⟩ := state?_eq_some.1 hid
    simp only [↓reduceIte, hq, Option.map_some, Option.some.injEq] at hp
    have hled := h id q hq
    rw [hstate] at hled
    rw [← hp, dialogue_answer, if_pos rfl]
    exact hled.snoc hreply
  · rw [if_neg hi] at hp
    rw [dialogue_answer, if_neg hi, List.append_nil]
    exact h i p hp

/-- A task may change its state as long as the same is left of its program. -/
theorem Led.setState {s : Setup} {x : Interleaving} (h : x.Led s) {id : TaskId}
    {state state' : Task.State} (hid : x.state? id = some state)
    (hstate : state'.residual = state.residual) : (x.setState id state').Led s := by
  intro i p hp
  rw [parties_setState] at hp
  by_cases hi : id = i
  · subst hi
    obtain ⟨q, hq, rfl⟩ := state?_eq_some.1 hid
    simp only [↓reduceIte, hq, Option.map_some, Option.some.injEq] at hp
    rw [← hp, hstate]
    exact h id q hq
  · rw [if_neg hi] at hp
    exact h i p hp

theorem Led.step {s : Setup} {x y : Interleaving} (h : x.Led s) (hx : x.Orderly s)
    (hstep : Step x y) : y.Led s := by
  cases hstep with
  | start job => exact h.add hx job _
  | tell hid => exact h.answer hid rfl fun _ => ⟨_, rfl⟩
  | claim hid _ => exact Led.answer (x := x.setInFlight _) h hid rfl fun _ => ⟨_, rfl⟩
  | refuse hid _ => exact h.answer hid rfl fun _ => ⟨_, rfl⟩
  | release hid => exact Led.answer (x := x.setInFlight _) h hid rfl fun _ => ⟨_, rfl⟩
  | spawn hid => exact (h.add hx _ _).answer (state?_add hid _ _) rfl fun _ => ⟨_, rfl⟩
  | pause hid _ =>
    have hblocked := h.setState hid (show (Task.State.blocked _ _).residual = _ from rfl)
    simpa [Led] using hblocked
  | @reply id op next hid reply =>
    -- Whatever the reply is, it can arise, as the task has paused.
    have hop := hx.pauses id op next hid
    exact h.answer hid rfl fun hprompt => absurd hprompt (by simp [hop])
  | finish hid => exact h.setState hid rfl

/-- In every interleaving, every task stands where its dialogue has led the program of its job. -/
theorem Reachable.led {s : Setup} {x : Interleaving} (h : Reachable s x) : x.Led s := by
  refine h.induction (fun id p hp => ?_) fun x y hx ih hstep => ih.step hx.orderly hstep
  simp at hp

section Follows

variable {Q : Job → Dialogue → Ask → Prop} {R : Job → Dialogue → Except Failure Job.Result → Prop}

/-- Every task keeps to what is ensured of its job: its questions so far fitted the dialogue before
them, and what is left of its program is as ensured. -/
def Follows (Q : Job → Dialogue → Ask → Prop)
    (R : Job → Dialogue → Except Failure Job.Result → Prop)
    (x : Interleaving) : Prop :=
  ∀ id p, x.parties[id]? = some p →
    (∀ t a u, x.dialogue id = t ++ a :: u → Q p.job t a.op) ∧
      p.state.residual.Ensures (Q p.job) (R p.job) (x.dialogue id)

/-- In every interleaving, every task keeps to what the program of its job ensures. -/
theorem Reachable.follows {s : Setup}
    (hjob : ∀ job : Job, (job.program s).Ensures (Q job) (R job) []) {x : Interleaving}
    (h : Reachable s x) : x.Follows Q R :=
  fun id p hp =>
    ⟨fun _ _ _ htu => (h.led id p hp).past (hjob p.job) htu, (h.led id p hp).ensures (hjob p.job)⟩

end Follows

/-- A task that goes on leaves the others as they are. -/
theorem proceed_of_ne {id i : TaskId} (hne : id ≠ i) (p : Program Job.Result)
    (x : Interleaving) :
    (x.proceed id p).dialogue i = x.dialogue i ∧
      (i < x.parties.length → (x.proceed id p).parties[i]? = x.parties[i]?) := by
  induction p generalizing x with
  | done r =>
    refine ⟨rfl, fun _ => ?_⟩
    rw [proceed, parties_setState, if_neg hne]
  | ask op next ih =>
    rw [proceed]
    split
    · next reply y hy =>
      obtain ⟨hmoments, hlen, hparties⟩ := promptly_eq_some hy
      obtain ⟨hdialogue, hsame⟩ := ih reply (y.answer id ⟨op, reply⟩ (next reply))
      refine ⟨?_, fun hi => ?_⟩
      · rw [hdialogue, dialogue_answer, if_neg hne, List.append_nil, dialogue, hmoments]
        rfl
      · have hi' : i < y.parties.length := Nat.lt_of_lt_of_le hi hlen
        rw [hsame (by simpa using hi'), parties_answer, if_neg hne, hparties i hi]
    · refine ⟨by simp, fun _ => ?_⟩
      rw [parties_note, parties_setState, if_neg hne]

/-- A task that goes on does so until it is no longer ready. -/
theorem proceed_not_ready (id : TaskId) (p q : Program Job.Result) (x : Interleaving) :
    (x.proceed id p).state? id ≠ some (.ready q) := by
  induction p generalizing x with
  | done r => cases h : x.parties[id]? <;> simp [proceed, state?, h]
  | ask op next ih =>
    rw [proceed]
    split
    · exact ih _ _
    · cases h : x.parties[id]? <;> simp [state?, h]

/-- A task that is ready goes on. -/
theorem move_go {x : Interleaving} {id : TaskId} {p : Program Job.Result}
    (h : x.state? id = some (.ready p)) : x.move (.go id) = x.proceed id p := by
  rw [move, h]

/-- A task that pauses is answered. -/
theorem move_reply_of_blocked {x : Interleaving} {id : TaskId} {op : Ask}
    {next : Except Failure op.Reply → Program Job.Result}
    (h : x.state? id = some (.blocked op next)) (replies : (op : Ask) → Except Failure op.Reply) :
    x.move (.reply id replies) = x.answer id ⟨op, replies op⟩ (next (replies op)) := by
  rw [move, h]

/-- A task that is not ready does not go on. -/
theorem move_go_of_not_ready {x : Interleaving} {id : TaskId}
    (h : ∀ p, x.state? id ≠ some (.ready p)) : x.move (.go id) = x := by
  rw [move]
  split
  · next p hp => exact absurd hp (h p)
  · rfl

/-- A task that does not pause is not answered. -/
theorem move_reply_of_not_blocked {x : Interleaving} {id : TaskId}
    (h : ∀ op next, x.state? id ≠ some (.blocked op next))
    (replies : (op : Ask) → Except Failure op.Reply) : x.move (.reply id replies) = x := by
  rw [move]
  split
  · next op next hop => exact absurd hop (h op next)
  · rfl

/-- Between moves, a task that is ready was just started, or just answered where it paused. -/
theorem run_ready {s : Setup} {moves : List Move} {id : TaskId} {p : Program Job.Result}
    (h : (run s moves).state? id = some (.ready p)) :
    (run s moves).dialogue id = [] ∨
      ∃ t a, (run s moves).dialogue id = t ++ [a] ∧ a.op.isPrompt = false := by
  induction moves using List.reverseRecOn generalizing p with
  | nil => exact Or.inl rfl
  | append_singleton moves m ih =>
    have hx := (run_reachable s moves).orderly
    rw [run_append] at h ⊢
    generalize run s moves = x at h hx ih ⊢
    cases m with
    | start job =>
      obtain ⟨q, hq, hstate⟩ := state?_eq_some.1 h
      rcases parties_add_cases x hq with hold | ⟨rfl, -⟩
      · exact ih (state?_eq_some.2 ⟨q, hold, hstate⟩)
      · -- Tasks have no dialogue before they take part.
        exact Or.inl (hx.known _ (Nat.le_refl _))
    | go i =>
      simp only [move] at h ⊢
      split at h
      · next q hq =>
        -- The task that goes on does not end up ready, so it is another one.
        have hne : i ≠ id := by
          rintro rfl
          exact proceed_not_ready i q p x h
        obtain ⟨hdialogue, hsame⟩ := proceed_of_ne hne q x
        rw [hdialogue]
        rcases Nat.lt_or_ge id x.parties.length with hlt | hge
        · refine ih (p := p) ?_
          rw [state?, ← hsame hlt]
          exact h
        · exact Or.inl (hx.known id hge)
      · exact ih h
    | reply i replies =>
      simp only [move] at h ⊢
      split at h
      · next op next hblocked =>
        rw [dialogue_answer]
        by_cases hi : i = id
        · subst hi
          rw [if_pos rfl]
          -- It was answered where it paused.
          exact Or.inr ⟨_, _, rfl, hx.pauses i op next hblocked⟩
        · rw [if_neg hi, List.append_nil]
          exact ih ((state?_setState_of_ne x hi _).symm.trans h)
      · exact ih h

/-- Between moves, a task that has not ended pauses at a question, or it was answered where it
paused, or it was not answered yet. -/
theorem run_pausing {Q : Job → Dialogue → Ask → Prop}
    {R : Job → Dialogue → Except Failure Job.Result → Prop} {s : Setup}
    (hjob : ∀ job : Job, (job.program s).Ensures (Q job) (R job) []) {moves : List Move}
    {id : TaskId} {p : Party} (hp : (run s moves).parties[id]? = some p)
    (hstate : ∀ r, p.state ≠ .ended r) :
    (run s moves).dialogue id = [] ∨
      (∃ op next, (run s moves).state? id = some (.blocked op next) ∧ op.isPrompt = false ∧
        Q p.job ((run s moves).dialogue id) op) ∨
      ∃ t a, (run s moves).dialogue id = t ++ [a] ∧ a.op.isPrompt = false ∧ Q p.job t a.op := by
  obtain ⟨hpast, hrest⟩ := (run_reachable s moves).follows hjob id p hp
  cases hcase : p.state with
  | ended r => exact absurd hcase (hstate r)
  | blocked op next =>
    have hblocked := state?_eq_some.2 ⟨p, hp, hcase⟩
    have hop := (run_reachable s moves).orderly.pauses id op next hblocked
    rw [hcase] at hrest
    exact Or.inr (Or.inl ⟨op, next, hblocked, hop, hrest.1⟩)
  | ready q =>
    -- The question that was answered last fitted the dialogue before it.
    rcases run_ready (state?_eq_some.2 ⟨p, hp, hcase⟩) with hnil | ⟨t, a, hta, ha⟩
    · exact Or.inl hnil
    · exact Or.inr (Or.inr ⟨t, a, hta, ha, hpast t a [] hta⟩)

end Interleaving

end IndexSync
