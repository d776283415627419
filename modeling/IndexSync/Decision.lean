/-!
# Decisions

What is to be done for a project follows from three signals: whether the service knows it, whether
its index is complete, and whether its fingerprint has changed.
-/

namespace IndexSync

/-- What is to be done for a project. -/
inductive Decision where
  /-- Nothing: all is up to date. -/
  | synced
  /-- Refresh what has changed. -/
  | refreshOnly
  /-- Refresh everything and watch for changes. -/
  | fullRefreshAndWatch
  /-- Register the project, then refresh everything and watch for changes. -/
  | registerFirst
  deriving DecidableEq, Repr

namespace Decision

/-- All decisions. -/
def all : List Decision := [.synced, .refreshOnly, .fullRefreshAndWatch, .registerFirst]

/-- The name of a decision. -/
def name : Decision → String
  | .synced => "synced"
  | .refreshOnly => "refresh_only"
  | .fullRefreshAndWatch => "full_refresh_and_watch"
  | .registerFirst => "register_then_full_refresh_and_watch"

/-- The decision with the given name. -/
def ofName? (s : String) : Option Decision := all.find? fun d => d.name == s

/-- Registration comes first, then the index, then the fingerprint. Index and fingerprint do not
count for a project that is not registered. -/
def decide (registered indexValid changed : Bool) : Decision :=
  if !registered then .registerFirst
  else if !indexValid then .fullRefreshAndWatch
  else if changed then .refreshOnly
  else .synced

theorem ofName?_name (d : Decision) : ofName? d.name = some d := by cases d <;> decide

end Decision

end IndexSync
