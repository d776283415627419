import IndexSync.Activation.Basic
import IndexSync.Task.Work

/-!
# The programs of jobs
-/

namespace IndexSync

/-- The program of a job. -/
def Job.program (s : Setup) : Job → Program Job.Result
  | .activation options => do return .activation (some (← Activation.run s options))
  | .resolution options => do return .activation (← Activation.resolve s options)
  | .chain options => do return .value (.bool (← Dispatch.chainProgram s.crew options))
  | .call action options => do
    Dispatch.callProgram s.crew action options
    return .value .null
  | .front => Activation.front
  | .work items => do return .value (← workProgram items)
  | .drain => do
    Program.drain
    return .value .null

end IndexSync
