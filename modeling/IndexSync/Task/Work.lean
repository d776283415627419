import IndexSync.Task.Program

/-!
# Scripted work

The program of a list of work items. It ends at the first item that finishes or fails, and with
nothing after the last one.
-/

namespace IndexSync

/-- Carry out scripted work. -/
def workProgram : List WorkItem → Program Value
  | [] => return .null
  | .finish v :: _ => return v
  | .fail text :: _ => Program.fail (.raised text)
  | .note v :: items => do
    Program.emit (.note v)
    workProgram items
  | .gate name :: items => do
    Program.call (.gate name)
    workProgram items
  | .wait ms :: items => do
    Program.wait ms
    workProgram items
  | .spawn name work :: items => do
    let _ ← Program.spawn name (.work work)
    Program.emit (.spawned name)
    workProgram items

end IndexSync
