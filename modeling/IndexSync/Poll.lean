import IndexSync.Task.Program

/-!
# Polling

An activation first has to reach the service. It probes it a limited number of times. Once a probe
succeeds it tries to go on, which may turn out to be too early; then it probes again after a longer
delay, at the expense of the same budget.
-/

namespace IndexSync

/-- The attempts that are left and the delay before the next one. -/
structure Budget where
  /-- Attempts left, the one about to start included. -/
  retries : Nat
  /-- The delay before the next attempt in milliseconds. -/
  interval : Int
  deriving DecidableEq, Repr

namespace Budget

/-- A budget of a number of attempts, which must not be negative, and a delay, which must be
positive. -/
def make (retries interval : Int) : Except Failure Budget :=
  if retries < 0 then .error .negativeRetries
  else if interval ≤ 0 then .error .nonPositiveInterval
  else .ok ⟨retries.toNat, interval⟩

/-- Nothing is left. -/
def exhausted (b : Budget) : Bool := b.retries == 0

/-- Use up one attempt; `none` if there is none left. -/
def take? (b : Budget) : Option Budget :=
  match b.retries with
  | 0 => none
  | n + 1 => some { b with retries := n }

end Budget

namespace Poll

/-- Where a poller stands. -/
inductive Phase where
  /-- It was not run yet. -/
  | idle
  /-- It is running, or a run of it failed. -/
  | polling
  /-- It reached the service and could go on. -/
  | connected
  /-- It spent its budget. -/
  | exhausted
  deriving DecidableEq, Repr

/-- The name of a phase. -/
def Phase.name : Phase → String
  | .idle => "idle"
  | .polling => "polling"
  | .connected => "connected"
  | .exhausted => "exhausted"

/-- How a run ended. -/
inductive Outcome (α : Type) where
  /-- With a result after a number of attempts. -/
  | connected (attempts : Nat) (result : α)
  /-- With the budget spent after a number of attempts. -/
  | exhausted (attempts : Nat)
  deriving DecidableEq, Repr

namespace Outcome

variable {α : Type}

/-- The phase that a run ended in. -/
def phase : Outcome α → Phase
  | .connected _ _ => .connected
  | .exhausted _ => .exhausted

/-- The number of attempts that were made. -/
def attempts : Outcome α → Nat
  | .connected n _ => n
  | .exhausted n => n

/-- The result of a run. -/
def result? : Outcome α → Option α
  | .connected _ a => some a
  | .exhausted _ => none

end Outcome

/-- The settings of a poller. -/
structure Settings where
  /-- The number of probes of one run. -/
  maxAttempts : Int := 30
  /-- The delay before the first probe. -/
  warmup : Int := 200
  /-- The delay after a failed probe. -/
  pingInterval : Int := 500
  /-- The delay after a probe that succeeded too early. -/
  discoveryInterval : Int := 1000
  deriving DecidableEq, Repr

/-- The request of a probe. -/
def pingRequest : String := "ping"

/-- Probe the service on behalf of a process. -/
def ping (pid : Nat) : Program Bool := do
  return (← Program.request pingRequest [("process_id", .int pid)]).ok

/-- Nothing is left to try. -/
def giveUp {α : Type} (attempts : Nat) : Program (Outcome α) := do
  Program.log .debug .poller
    ("Gave up reaching index service after " ++ toString attempts ++ " attempts")
  return .exhausted attempts

/-- Announce the next attempt and wait for it. -/
def pause (attempts left : Nat) (interval : Int) : Program Unit := do
  Program.log .debug .poller
    ("Poll attempt " ++ toString attempts ++ " did not complete, " ++ toString left
      ++ " left, retrying in " ++ toString interval ++ "ms")
  Program.wait interval

/-- One attempt: probe the service and, if it answers, try to go on. The flag tells whether it
answered. -/
def tick {α : Type} (pid : Nat) (resolve : Program (Option α)) : Program (Bool × Option α) := do
  if ← ping pid then return (true, ← resolve) else return (false, none)

/-- Make up to `left` attempts after those made before. -/
def loop {α : Type} (s : Settings) (pid : Nat) (resolve : Program (Option α)) (attempts : Nat) :
    Nat → Program (Outcome α)
  | 0 => giveUp attempts
  | left + 1 => do
    match ← tick pid resolve with
    | (_, some a) => return .connected (attempts + 1) a
    | (answered, none) =>
      -- There is no wait after the last attempt.
      if left = 0 then giveUp (attempts + 1)
      else
        pause (attempts + 1) left (if answered then s.discoveryInterval else s.pingInterval)
        loop s pid resolve (attempts + 1) left

/-- A run with a budget: wait for the warm-up to pass, then make the attempts. -/
def runWith {α : Type} (s : Settings) (pid : Nat) (resolve : Program (Option α)) (b : Budget) :
    Program (Outcome α) := do
  Program.wait b.interval
  loop s pid resolve 0 b.retries

/-- A run of a poller: how it ended, and the phase it left the poller in. -/
structure Run (α : Type) where
  /-- The phase afterwards. -/
  phase : Phase
  /-- How it ended. -/
  outcome : Except Failure (Outcome α)

/-- Poll until `resolve` yields a result or the budget is spent. A run that cannot start leaves the
poller in the phase it was in. -/
def run {α : Type} (s : Settings) (pid : Nat) (before : Phase) (resolve : Program (Option α)) :
    Program (Run α) :=
  match Budget.make s.maxAttempts s.warmup with
  | .error e => return ⟨before, .error e⟩
  | .ok b => do
    match ← (runWith s pid resolve b).attempt with
    | .ok outcome => return ⟨outcome.phase, .ok outcome⟩
    -- A run that fails midway never left the phase it was in.
    | .error e => return ⟨.polling, .error e⟩

end Poll

end IndexSync
