import IndexSync.Registry.Record
import IndexSync.Task.Program

/-!
# The project list of the service

Asking the service for the projects it knows, with a budget of requests of its own.
-/

namespace IndexSync.Registry

/-- The request for the project list. -/
def listRequest : String := "list_projects"

/-- What a response says about the project list. -/
inductive Listing where
  /-- The request failed. -/
  | refused (error : Value)
  /-- The list is no list. -/
  | malformed (projects : Value)
  /-- The usable records of the list. -/
  | records (records : List Record)

/-- The project list in a reply. No list is an empty list. -/
def Listing.ofProjects : Value → Listing
  | .null => .records []
  | .list items => .records (Record.ofEntries items)
  | .tuple items => .records (Record.ofEntries items)
  | v => .malformed v

/-- The project list in a response. -/
def Listing.ofResponse (r : Response) : Listing :=
  if r.ok then .ofProjects ((Value.lookup? r.result "projects").getD .null)
  else .refused r.error

/-- Ask for the project list once. -/
def fetch : Program (Option (List Record)) := do
  match Listing.ofResponse (← Program.request listRequest []) with
  | .records records => return some records
  | .refused error =>
    Program.log .debug .registry ("list_projects failed: " ++ error.text)
    return none
  | .malformed projects =>
    Program.log .debug .registry ("list_projects returned malformed projects: " ++ projects.literal)
    return none

/-- Ask for the project list up to a number of times, waiting between requests. -/
def fetchUpTo (interval : Int) : Nat → Program (Option (List Record))
  | 0 => return none
  | left + 1 => do
    match ← fetch with
    | some records => return some records
    | none =>
      -- There is no wait after the last request.
      if left = 0 then return none
      else
        Program.wait interval
        fetchUpTo interval left

/-- Ask for the project list until it is given or the budget is spent. -/
def fetchWithRetry (attempts interval : Int) : Program (Option (List Record)) := do
  match ← fetchUpTo interval attempts.toNat with
  | some records => return some records
  | none =>
    Program.log .debug .registry
      ("Project registry unavailable after " ++ toString attempts ++ " attempts")
    return none

end IndexSync.Registry
