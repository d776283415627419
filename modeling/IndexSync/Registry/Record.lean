import IndexSync.PathKey
import IndexSync.Value

/-!
# Registered projects

What the service knows about a project: its root, in a spelling of the service's own, and the
fingerprint it had when it was indexed.
-/

namespace IndexSync

/-- A project that the service knows. -/
structure Record where
  /-- The root, as the service spells it. -/
  root : String
  /-- The fingerprint, if the service has one. -/
  fingerprint : Option String
  deriving DecidableEq, Repr

namespace Record

/-- The text of a value that counts as true. -/
def textIfTrue (v : Value) : Option String := if v.truthy then some v.text else none

/-- The fingerprint in an entry of the project list, under its present name or its older one. The
older name counts only where the present one is absent. -/
def storedFingerprint (entries : Entries) : Option String :=
  ((Value.lookup? entries "vcs_fingerprint").or (Value.lookup? entries "vcs_hash")).bind textIfTrue

/-- The record in an entry of the project list; an entry without a root is of no use. -/
def ofValue? : Value → Option Record
  | .map entries =>
    ((Value.lookup? entries "root").bind textIfTrue).map fun root =>
      ⟨root, storedFingerprint entries⟩
  | _ => none

/-- The usable records of a project list, in order. -/
def ofEntries (entries : List Value) : List Record := entries.filterMap ofValue?

/-- The first record for a root. Records of directories above or below it do not count. -/
def find? (rule : CaseRule) (records : List Record) (root : String) : Option Record :=
  records.find? fun r => PathKey.ofText rule r.root == PathKey.ofText rule root

end Record

end IndexSync
