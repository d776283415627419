import IndexSync.Rpc.Response
import IndexSync.Staleness
import IndexSync.Task.Job

/-!
# Programs

What a task does, as a tree: it asks its surroundings for something and goes on according to the
reply, or it is done. All that a task shares with others is reached by asking, so a program says
exactly what one task does for given replies, whatever other tasks do in between. Every reply may
be a failure; a program that does not handle it fails with it.
-/

namespace IndexSync

/-- The number of a task, in order of creation. -/
abbrev TaskId := Nat

/-- What a task can ask its surroundings for. -/
inductive Ask where
  /-- Record an event. -/
  | emit (event : Event)
  /-- Have the service running. -/
  | startService
  /-- Wait for some milliseconds. -/
  | wait (ms : Int)
  /-- Send a request to the service and await the response. -/
  | request (name : String) (params : Options)
  /-- Find the project the user is in. -/
  | locate
  /-- Judge the index of a registered project. -/
  | assess (root index : FsPath) (stored : Option String)
  /-- Claim the key of a project, unless it is claimed. -/
  | enter (key : String)
  /-- Give up the claim on the key of a project. -/
  | leave (key : String)
  /-- Have the host do an action. -/
  | perform (action : Action) (options : Options)
  /-- Ask the host whether it can proceed. -/
  | consult
  /-- Start a task. -/
  | spawn (name : String) (job : Job)
  /-- Wait until a gate is open. -/
  | gate (name : String)
  /-- Wait until a task has ended, and take over how it ended. -/
  | join (task : TaskId)
  /-- Wait until every task started by the scheduler is done. -/
  | drain

/-- What a question is answered with. -/
def Ask.Reply : Ask → Type
  | .request _ _ => Response
  | .locate => Option Project
  | .assess _ _ _ => Staleness
  | .enter _ => Bool
  | .perform _ _ => Value
  | .consult => Option Value
  | .spawn _ _ => TaskId
  | .join _ => Job.Result
  | .emit _ => Unit
  | .startService => Unit
  | .wait _ => Unit
  | .leave _ => Unit
  | .gate _ => Unit
  | .drain => Unit

/-- A program with a result. -/
inductive Program (α : Type) where
  /-- The program is done. -/
  | done (result : Except Failure α)
  /-- The program asks for something and goes on by the reply. -/
  | ask (op : Ask) (next : Except Failure op.Reply → Program α)

namespace Program

variable {α β : Type}

/-- One program after the other; a failure of the first ends both. -/
def bind : Program α → (α → Program β) → Program β
  | .done (.ok a), f => f a
  | .done (.error e), _ => .done (.error e)
  | .ask op next, f => .ask op fun reply => (next reply).bind f

instance : Monad Program where
  pure a := .done (.ok a)
  bind := Program.bind

/-- Fail. -/
def fail (e : Failure) : Program α := .done (.error e)

/-- Run a program and hand over how it ended. -/
def attempt : Program α → Program (Except Failure α)
  | .done r => .done (.ok r)
  | .ask op next => .ask op fun reply => (next reply).attempt

/-- Run a program, then a second one however the first ended, and end as the first did. -/
def ensuring (p : Program α) (last : Program Unit) : Program α := do
  let r ← p.attempt
  last
  .done r

section Laws

variable {γ : Type}

@[simp]
theorem done_ok_bind (a : α) (f : α → Program β) : (.done (.ok a) : Program α) >>= f = f a := rfl

@[simp]
theorem done_error_bind (e : Failure) (f : α → Program β) :
    (.done (.error e) : Program α) >>= f = .done (.error e) := rfl

@[simp]
theorem ask_bind (op : Ask) (next : Except Failure op.Reply → Program α) (f : α → Program β) :
    Program.ask op next >>= f = .ask op fun reply => next reply >>= f := rfl

theorem bind_done_ok (p : Program α) : (p >>= fun a => .done (.ok a)) = p := by
  induction p with
  | done r => cases r <;> rfl
  | ask op next ih => simp only [ask_bind, ih]

theorem bind_bind (p : Program α) (f : α → Program β) (g : β → Program γ) :
    p >>= f >>= g = p >>= fun a => f a >>= g := by
  induction p with
  | done r => cases r <;> rfl
  | ask op next ih => simp only [ask_bind, ih]

instance : LawfulMonad Program :=
  LawfulMonad.mk' Program bind_done_ok (fun _ _ => rfl) bind_bind

@[simp]
theorem attempt_done (r : Except Failure α) : (Program.done r).attempt = .done (.ok r) := rfl

@[simp]
theorem attempt_ask (op : Ask) (next : Except Failure op.Reply → Program α) :
    (Program.ask op next).attempt = .ask op fun reply => (next reply).attempt := rfl

end Laws

/-- Ask for something; a failure is passed on. -/
def call (op : Ask) : Program op.Reply := .ask op .done

/-- Record an event. -/
def emit (e : Event) : Program Unit := call (.emit e)

/-- Write a log record. -/
def log (level : Level) (source : Source) (text : String) : Program Unit :=
  emit (logged level source text)

/-- Write a log record about a failure that was contained. -/
def warn (source : Source) (text : String) (cause : Failure) : Program Unit :=
  emit (.log ⟨.warning, source, text, some cause⟩)

/-- Wait for some milliseconds. -/
def wait (ms : Int) : Program Unit := call (.wait ms)

/-- Send a request to the service and await the response. -/
def request (name : String) (params : Options) : Program Response := call (.request name params)

/-- Find the project the user is in. -/
def locate : Program (Option Project) := call .locate

/-- Judge the index of a registered project. -/
def assess (root index : FsPath) (stored : Option String) : Program Staleness :=
  call (.assess root index stored)

/-- Claim the key of a project; the reply tells whether it was free. -/
def enter (key : String) : Program Bool := call (.enter key)

/-- Give up the claim on the key of a project. -/
def leave (key : String) : Program Unit := call (.leave key)

/-- Have the host do an action. -/
def perform (action : Action) (options : Options) : Program Value := call (.perform action options)

/-- Ask the host whether it can proceed. -/
def consult : Program (Option Value) := call .consult

/-- Start a task. -/
def spawn (name : String) (job : Job) : Program TaskId := call (.spawn name job)

/-- Wait until a task has ended, and take over how it ended. -/
def join (task : TaskId) : Program Job.Result := call (.join task)

/-- Wait until every task started by the scheduler is done. -/
def drain : Program Unit := call .drain

end Program

end IndexSync
