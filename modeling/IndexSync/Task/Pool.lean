import IndexSync.Task.Roster

/-!
# Pools of tasks

Tasks take turns, in the order in which they became ready. A task is ready, blocked at a question,
or ended. That a task has ended is noticed in a turn of its own, after which the scheduler no longer
keeps track of it. A task that waits for all others looks again whenever those are over that it
found when it looked last.
-/

namespace IndexSync

/-- Where a task stands. -/
inductive Task.State where
  /-- It can go on. -/
  | ready (program : Program Job.Result)
  /-- It waits for the reply to a question. -/
  | blocked (op : Ask) (next : Except Failure op.Reply → Program Job.Result)
  /-- It is over. -/
  | ended (result : Except Failure Job.Result)

/-- A task. -/
structure Task where
  /-- Its name. -/
  name : String
  /-- What it was set to do. -/
  job : Job
  /-- Where it stands. -/
  state : Task.State

namespace Task

/-- How a task ended, if it did. -/
def result? (t : Task) : Option (Except Failure Job.Result) :=
  match t.state with
  | .ended r => some r
  | _ => none

/-- The tasks that a task accounts for that is not over. -/
def weight (t : Task) : Nat :=
  match t.state with
  | .ended _ => 0
  | _ => t.job.weight

end Task

/-- What is done in one turn. -/
inductive Turn where
  /-- A task goes on. -/
  | go (task : TaskId)
  /-- The end of a task is noticed. -/
  | retire (task : TaskId)
  deriving DecidableEq, Repr

/-- Tasks and the turns they have coming. -/
structure Pool where
  /-- All tasks, by number. -/
  tasks : List Task := []
  /-- The turns to come, next one first. -/
  queue : List Turn := []
  /-- The blocked tasks, in the order in which they became blocked. -/
  waiting : List TaskId := []
  /-- The gates that are open. -/
  gates : List String := []
  /-- The tasks that the scheduler keeps track of. -/
  roster : Roster := {}

namespace Pool

/-- The number of tasks that the scheduler keeps track of. -/
def pending (p : Pool) : Nat := p.roster.pending

/-- How a task ended, if it did. -/
def result? (p : Pool) (id : TaskId) : Option (Except Failure Job.Result) :=
  p.tasks[id]?.bind Task.result?

/-- Let a task stand at a state. -/
def setState (p : Pool) (id : TaskId) (state : Task.State) : Pool :=
  { p with tasks := p.tasks.modify id fun t => { t with state } }

/-- Add a turn to the end of the queue. -/
def enqueue (p : Pool) (turn : Turn) : Pool := { p with queue := p.queue ++ [turn] }

/-- Add a task that is ready to do a job, and give it a turn. The scheduler may keep track of it. -/
def add (p : Pool) (name : String) (job : Job) (program : Program Job.Result) (tracked : Bool) :
    TaskId × Pool :=
  let id := p.tasks.length
  let task : Task := ⟨name, job, .ready program⟩
  let roster := if tracked then p.roster.enter id else p.roster
  (id, { p with tasks := p.tasks ++ [task], roster }.enqueue (.go id))

/-- A task has ended. -/
def finish (p : Pool) (id : TaskId) (result : Except Failure Job.Result) : Pool :=
  (p.setState id (.ended result)).enqueue (.retire id)

/-- A task that asks for the end of all tasks waits for those that there are. -/
def rosterAt (p : Pool) (id : TaskId) : Ask → Roster
  | .drain => p.roster.gather id
  | _ => p.roster

/-- A task waits for the reply to a question. -/
def block (p : Pool) (id : TaskId) (op : Ask)
    (next : Except Failure op.Reply → Program Job.Result) : Pool :=
  let p := p.setState id (.blocked op next)
  { p with waiting := p.waiting ++ [id], roster := p.rosterAt id op }

/-- A blocked task goes on with a program. -/
def wake (p : Pool) (id : TaskId) (program : Program Job.Result) : Pool :=
  let p := p.setState id (.ready program)
  { p with waiting := p.waiting.erase id }.enqueue (.go id)

/-- The question that a task waits for the reply to. -/
def question? (p : Pool) (id : TaskId) : Option Ask :=
  match p.tasks[id]?.map Task.state with
  | some (.blocked op _) => some op
  | _ => none

/-- A task waits for the response to a request. -/
def waitsForRequest (p : Pool) (name : String) (id : TaskId) : Bool :=
  match p.question? id with
  | some (.request n _) => n == name
  | _ => false

/-- How a task goes on that waited for a gate or for the end of a task, once that has come about. -/
def resume? (p : Pool) (id : TaskId) : Option (Program Job.Result) :=
  match p.tasks[id]?.map Task.state with
  | some (.blocked (.gate g) next) => if p.gates.contains g then some (next (.ok ())) else none
  | some (.blocked (.join other) next) =>
    -- The end of a task is known to others only once it has been noticed.
    if p.roster.tracked.contains other then none else (p.result? other).map next
  | _ => none

/-- Wake a task if what it waited for has come about. -/
def rouse (p : Pool) (id : TaskId) : Pool :=
  match p.resume? id with
  | some program => p.wake id program
  | none => p

/-- Wake all tasks for which what they waited for has come about, in the order in which they became
blocked. -/
def rouseAll (p : Pool) : Pool := p.waiting.foldl rouse p

/-- Open a gate. -/
def openGate (p : Pool) (gate : String) : Pool :=
  { p with gates := gate :: p.gates }.rouseAll

/-- Notice that a task has ended. Those who have nothing left to wait for look again. -/
def retire (p : Pool) (id : TaskId) : Pool :=
  let (due, roster) := p.roster.notice id
  let p := { p with roster }.rouseAll
  { p with queue := p.queue ++ due.map .go }

/-- A bound on the number of turns that can be taken before all tasks are over or blocked: every
task has a first turn, one in which its end is noticed, and up to two for being woken, and whenever
an end is noticed, those who wait for all tasks may look again. -/
def turnBound (p : Pool) : Nat :=
  let weight := p.tasks.foldr (fun t n => t.weight + n) 0
  (p.queue.length + 4 * weight) * (weight + 1)

end Pool

end IndexSync
