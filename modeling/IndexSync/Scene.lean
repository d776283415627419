import IndexSync.Activation.Jobs
import IndexSync.Task.Pool
import IndexSync.World

/-!
# Scenes

Tasks in a world. A turn lets one task go on until it ends or is blocked; a scene is settled when no
turns are left. Requests of chosen names can be held back: they reach the service, and their
responses wait to be released.
-/

namespace IndexSync

/-- Tasks in a world. -/
structure Scene where
  /-- What activations have in common. -/
  setup : Setup
  /-- The world. -/
  world : World
  /-- The tasks. -/
  pool : Pool := {}
  /-- The names of the requests that are held back. -/
  held : List String := []

namespace Scene

/-- The reply to a question, or nothing if there is none yet, and the scene afterwards. -/
abbrev Answered (α : Type) := Option (Except Failure α) × Scene

/-- Do something in the world. -/
def act {α : Type} (s : Scene) (a : Act α) : Answered α :=
  let (r, world) := a s.world
  (some r, { s with world })

/-- Start a task. A task that the scheduler starts is kept track of. -/
def start (s : Scene) (name : String) (job : Job) (tracked : Bool) : TaskId × Scene :=
  let (id, pool) := s.pool.add name job (job.program s.setup) tracked
  (id, { s with pool })

/-- Let the scheduler start a task. -/
def spawn (s : Scene) (name : String) (job : Job) : TaskId × Scene :=
  let world := s.world.afterAll (s.world.scheduling.spawning name)
  { s with world }.start name job true

/-- Send a request. One that is held back gets no response yet. -/
def request (s : Scene) (name : String) (params : Options) : Answered Response :=
  if s.world.channel = .direct ∧ name ∈ s.held then
    -- The request has arrived; only its response is missing.
    (none, { s with world := s.world.after (.request name params) })
  else
    let (reply, world) := World.request name params s.world
    (reply, { s with world })

/-- Wait until a task has ended. -/
def join (s : Scene) (id : TaskId) : Answered Job.Result :=
  (if s.pool.roster.tracked.contains id then none else s.pool.result? id, s)

/-- Answer a question, if it can be answered yet. -/
def answer (s : Scene) : (op : Ask) → Answered op.Reply
  | .emit event => s.act (World.emit event)
  | .startService => s.act World.startService
  | .wait ms => s.act (World.wait ms)
  | .request name params => s.request name params
  | .locate => s.act World.locate
  | .assess root index stored => s.act (World.assess root index stored)
  | .enter key => s.act (World.enter key)
  | .leave key => s.act (World.leave key)
  | .perform action options => s.act (World.perform action options)
  | .consult => s.act World.consult
  | .spawn name job =>
    let (id, s) := s.spawn name job
    (some (.ok id), s)
  | .gate name => (if s.pool.gates.contains name then some (.ok ()) else none, s)
  | .join id => s.join id
  | .drain => (if s.pool.pending = 0 then some (.ok ()) else none, s)

/-- Let a task go on with a program until it ends or is blocked. -/
def advance (id : TaskId) : Program Job.Result → Scene → Scene
  | .done r, s => { s with pool := s.pool.finish id r }
  | .ask op next, s =>
    match s.answer op with
    | (some reply, s) => advance id (next reply) s
    | (none, s) => { s with pool := s.pool.block id op next }

/-- Take one turn. -/
def take (s : Scene) : Turn → Scene
  | .go id =>
    match s.pool.tasks[id]?.map Task.state with
    | some (.ready program) => advance id program s
    | some (.blocked .drain next) =>
      -- The tasks it has waited for may have started others.
      advance id (.ask .drain next)
        { s with pool := { s.pool with waiting := s.pool.waiting.erase id } }
    | _ => s
  | .retire id => { s with pool := s.pool.retire id }

/-- Take turns until none are left, up to a number of them. -/
def settleWithin : Nat → Scene → Scene
  | 0, s => s
  | bound + 1, s =>
    match s.pool.queue with
    | [] => s
    | turn :: queue =>
      settleWithin bound ({ s with pool := { s.pool with queue } }.take turn)

/-- Take turns until none are left. -/
def settle (s : Scene) : Scene := settleWithin s.pool.turnBound s

/-- Run a program outside of any task. Nothing is returned if it is blocked. -/
def run {α : Type} : Program α → Scene → Answered α
  | .done r, s => (some r, s)
  | .ask op next, s =>
    match s.answer op with
    | (some reply, s) => run (next reply) s
    | (none, s) => (none, s)

/-- Hold back requests of a name from now on. -/
def hold (s : Scene) (name : String) : Scene := { s with held := name :: s.held }

/-- Let a request that was held back be answered, and settle. -/
def answerHeld (s : Scene) (id : TaskId) : Scene :=
  match s.pool.tasks[id]?.map Task.state with
  | some (.blocked (.request name _) next) =>
    -- The service reacts when it is released, not when the request arrived.
    let (reply, world) := World.answer name s.world
    { s with world, pool := s.pool.wake id (next reply) }.settle
  | _ => s

/-- Stop holding back requests of a name, and have up to a number of those that wait answered in
the order in which they arrived. -/
def release (s : Scene) (name : String) (count : Option Nat) : Scene :=
  let s := { s with held := s.held.filter (· != name) }
  let blocked := s.pool.waiting.filter (s.pool.waitsForRequest name)
  ((match count with
    | some n => blocked.take n
    | none => blocked).foldl answerHeld s)

/-- Open a gate. -/
def openGate (s : Scene) (gate : String) : Scene := { s with pool := s.pool.openGate gate }

end Scene

end IndexSync
