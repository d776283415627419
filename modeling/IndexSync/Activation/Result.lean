import IndexSync.Decision
import IndexSync.Project

/-!
# Results of activations
-/

namespace IndexSync.Activation

/-- How an activation ended. -/
inductive Status where
  /-- What had to be done was started. -/
  | dispatched
  /-- The service could not be reached, or no project was found. -/
  | exhausted
  /-- The service did not say which projects it knows. -/
  | registryUnavailable
  /-- Another activation was busy with the same project. -/
  | alreadyInFlight
  deriving DecidableEq, Repr

/-- The name of a status. -/
def Status.name : Status → String
  | .dispatched => "dispatched"
  | .exhausted => "exhausted"
  | .registryUnavailable => "registry_unavailable"
  | .alreadyInFlight => "already_in_flight"

/-- The result of an activation. -/
structure Result where
  /-- How it ended. -/
  status : Status
  /-- The project it was about. -/
  project : Option Project := none
  /-- What was decided for the project. -/
  decision : Option Decision := none
  deriving DecidableEq, Repr

end IndexSync.Activation
