import IndexSync.Action
import IndexSync.Activation.Result

/-!
# Jobs

What a background task can be set to do, as data. The program of each job is given where the jobs
are carried out.
-/

namespace IndexSync

/-- One item of scripted work. -/
inductive WorkItem where
  /-- Leave a note. -/
  | note (v : Value)
  /-- Wait until a gate is open. -/
  | gate (name : String)
  /-- Wait for some milliseconds. -/
  | wait (ms : Int)
  /-- Start a task. -/
  | spawn (name : String) (work : List WorkItem)
  /-- Fail with a text. -/
  | fail (text : String)
  /-- Finish with a value. -/
  | finish (v : Value)

mutual

/-- The number of tasks that an item of scripted work starts, directly or not. -/
def WorkItem.tasks : WorkItem → Nat
  | .spawn _ work => 1 + WorkItem.totalTasks work
  | _ => 0

/-- The number of tasks that scripted work starts, directly or not. -/
def WorkItem.totalTasks : List WorkItem → Nat
  | [] => 0
  | item :: items => item.tasks + WorkItem.totalTasks items

end

/-- What a task does. -/
inductive Job where
  /-- Reach the service and then resolve the project. -/
  | activation (options : Option Options)
  /-- Resolve the project, given that the service can be reached. -/
  | resolution (options : Option Options)
  /-- Register a project, and on success watch it and refresh it in full. -/
  | chain (options : Options)
  /-- Have one action done. -/
  | call (action : Action) (options : Options)
  /-- Activate, and wait until everything started on the way is done. -/
  | front
  /-- Do scripted work. -/
  | work (items : List WorkItem)
  /-- Wait until every task is done. -/
  | drain

/-- A bound on the number of tasks that a job accounts for: itself and those it starts. -/
def Job.weight : Job → Nat
  | .activation _ => 4
  | .resolution _ => 4
  | .chain _ => 3
  | .call _ _ => 1
  | .front => 5
  | .work items => 1 + WorkItem.totalTasks items
  | .drain => 1

/-- What a finished job hands back. -/
inductive Job.Result where
  /-- The result of an activation; a resolution without a project has none. -/
  | activation (result : Option Activation.Result)
  /-- A value. -/
  | value (v : Value)

end IndexSync
