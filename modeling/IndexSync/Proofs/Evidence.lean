import IndexSync.Proofs.Dialogue
import IndexSync.World

/-!
# The evidence for a decision

What is to be done for a project rests on three things: the entries of the project list that the
service replied with, the file at the place of the index, and what the version control program
prints. This module says what each of them has to look like, without the records and reports that
are made of them on the way.

* `Registry.entries? r` — the entries of the project list in a response;
* `Record.names rule root v` — an entry of the list is about a root;
* `Host.Holds h file size` — there is a regular file above a size at a path;
* `Host.AtCommit h fingerprint` — the version control program prints a fingerprint;
* `Verdict` — the decision that follows from these;
* `Staleness.assess_verdict` — the decision for a registered project is the one that follows.
-/

namespace IndexSync

namespace Registry

/-- The entries of the project list in a response, if it was successful and has a list. -/
def entries? (r : Response) : Option (List Value) :=
  match r.ok, (Value.lookup? r.result "projects").getD .null with
  | true, .null => some []
  | true, .list items => some items
  | true, .tuple items => some items
  | _, _ => none

/-- A response gives records exactly if it has entries, and they are the usable ones of these. -/
theorem ofResponse_eq_records {r : Response} {records : List Record} :
    Listing.ofResponse r = .records records ↔
      ∃ entries, entries? r = some entries ∧ records = Record.ofEntries entries := by
  unfold Listing.ofResponse entries?
  cases r.ok with
  | false => simp
  | true =>
    cases (Value.lookup? r.result "projects").getD .null with
    | null => simp [Listing.ofProjects, Record.ofEntries, eq_comm]
    | list items => simp [Listing.ofProjects, eq_comm]
    | tuple items => simp [Listing.ofProjects, eq_comm]
    | _ => simp [Listing.ofProjects]

end Registry

namespace Record

/-- An entry of the project list is about a root: it is a mapping whose root counts as true and has
the same key. -/
def names (rule : CaseRule) (root : String) : Value → Bool
  | .map entries =>
    match Value.lookup? entries "root" with
    | some v => v.truthy && PathKey.same rule v.text root
    | none => false
  | _ => false

/-- An entry that is about a root is a mapping, and the record made of it is about that root. -/
theorem exists_record_of_names {rule : CaseRule} {root : String} {v : Value}
    (h : names rule root v = true) : ∃ entries record, v = .map entries ∧
      ofValue? v = some record ∧ record.fingerprint = storedFingerprint entries ∧
      (PathKey.ofText rule record.root == PathKey.ofText rule root) = true := by
  cases v with
  | map entries =>
    unfold names at h
    cases hroot : Value.lookup? entries "root" with
    | none => simp [hroot] at h
    | some v =>
      simp only [hroot, Bool.and_eq_true] at h
      obtain ⟨htrue, hsame⟩ := h
      refine ⟨entries, ⟨v.text, storedFingerprint entries⟩, rfl, ?_, rfl, hsame⟩
      simp [ofValue?, hroot, textIfTrue, htrue]
  | _ => cases h

/-- The record made of an entry that is not about a root is not about that root. -/
theorem ne_of_not_names {rule : CaseRule} {root : String} {v : Value} {record : Record}
    (h : names rule root v = false) (hrecord : ofValue? v = some record) :
    (PathKey.ofText rule record.root == PathKey.ofText rule root) = false := by
  cases v with
  | map entries =>
    simp only [ofValue?, Option.map_eq_some_iff, Option.bind_eq_some_iff, textIfTrue,
      Option.ite_none_right_eq_some] at hrecord
    obtain ⟨_, ⟨v, hroot, htrue, htext⟩, rfl⟩ := hrecord
    obtain rfl := Option.some.inj htext
    simpa [names, hroot, htrue, PathKey.same] using h
  | _ => cases hrecord

/-- The first record about a root is the one made of the first entry about it. -/
theorem find?_ofEntries (rule : CaseRule) (root : String) (entries : List Value) :
    find? rule (ofEntries entries) root = (entries.find? (names rule root)).bind ofValue? := by
  induction entries with
  | nil => rfl
  | cons v entries ih =>
    unfold find? ofEntries at ih ⊢
    -- An entry that is about the root has a record; one that is not may have none.
    cases hnames : names rule root v with
    | true =>
      obtain ⟨_, record, -, hrecord, -, hsame⟩ := exists_record_of_names hnames
      rw [List.filterMap_cons_some hrecord, List.find?_cons_of_pos hnames, Option.bind_some,
        hrecord]
      exact List.find?_cons_of_pos hsame
    | false =>
      rw [List.find?_cons_of_neg (by simp [hnames]), ← ih]
      cases hrecord : ofValue? v with
      | none => rw [List.filterMap_cons_none hrecord]
      | some record =>
        rw [List.filterMap_cons_some hrecord]
        exact List.find?_cons_of_neg (by simp [ne_of_not_names hnames hrecord])

end Record

namespace Host

/-- A regular file above a size is at a path. Where the path cannot be looked at, there is none. -/
def Holds (h : Host) (file : FsPath) (minSize : Int) : Prop :=
  ∃ (node : Node) (size : Nat), h.stat file = .ok node ∧ node.isFile = true ∧
    node.size? = some size ∧ minSize < size

/-- The version control program prints a text that is a fingerprint once it is stripped. -/
def AtCommit (h : Host) (fingerprint : String) : Prop :=
  ∃ text, h.git = .printed text ∧ Text.strip text = fingerprint ∧ fingerprint ≠ ""

end Host

namespace Staleness

variable {h : Host} {root file : FsPath} {minSize : Int}

/-- Regular files have a size. -/
theorem size?_of_isFile {node : Node} (hfile : node.isFile = true) :
    ∃ size, node.size? = some size := by
  cases node with
  | file content mode => exact ⟨_, rfl⟩
  | socket state mode => exact ⟨_, rfl⟩
  | _ => cases hfile

/-- The size of the file at a path, where the path can be looked at. -/
theorem fileSize?_of_stat {node : Node} (hstat : h.stat file = .ok node) :
    fileSize? h file = .ok (if node.isFile then node.size? else none) := by
  have hprobe : h.isFile file = .ok node.isFile := by rw [Host.isFile, Host.probe, hstat]
  cases hfile : node.isFile with
  | true => simp [fileSize?, hprobe, hstat, hfile, bind, Except.bind, pure, Except.pure]
  | false => simp [fileSize?, hprobe, hfile, bind, Except.bind, pure, Except.pure]

/-- A path that cannot be looked at has no file, or the error is passed on. -/
theorem fileSize?_of_error {e : Failure} (hstat : h.stat file = .error e) :
    fileSize? h file = .ok none ∨ fileSize? h file = .error e := by
  have hprobe : h.isFile file = .ok false ∨ h.isFile file = .error e := by
    rw [Host.isFile, Host.probe, hstat]
    cases e with
    | nullByte => exact Or.inl rfl
    | system errno path =>
      dsimp only
      split
      · exact Or.inl rfl
      · exact Or.inr rfl
    | _ => exact Or.inr rfl
  rcases hprobe with hprobe | hprobe
  · exact Or.inl (by simp [fileSize?, hprobe, bind, Except.bind, pure, Except.pure])
  · exact Or.inr (by simp [fileSize?, hprobe, bind, Except.bind])

/-- An index that is found complete is a regular file above the size, and conversely. -/
theorem indexComplete_iff {valid : Bool}
    (hvalid : (indexComplete h file minSize).outcome = .ok valid) :
    valid = true ↔ h.Holds file minSize := by
  unfold indexComplete at hvalid
  -- The path is looked at twice, and the host answers the same both times.
  cases hstat : h.stat file with
  | ok node =>
    rw [fileSize?_of_stat hstat] at hvalid
    cases hfile : node.isFile with
    | false =>
      rw [hfile] at hvalid
      obtain rfl := Except.ok.inj hvalid
      refine ⟨fun hfalse => (by cases hfalse), ?_⟩
      rintro ⟨node', size, hnode, hfile', -⟩
      obtain rfl := Except.ok.inj (hstat.symm.trans hnode)
      rw [hfile] at hfile'
      exact hfile'
    | true =>
      obtain ⟨size, hsize⟩ := size?_of_isFile hfile
      rw [hfile, if_pos rfl, hsize] at hvalid
      obtain rfl := Except.ok.inj hvalid
      rw [decide_eq_true_iff]
      constructor
      · exact fun hlt => ⟨node, size, hstat, hfile, hsize, hlt⟩
      · rintro ⟨node', size', hnode, -, hsize', hlt⟩
        obtain rfl := Except.ok.inj (hstat.symm.trans hnode)
        obtain rfl := Option.some.inj (hsize.symm.trans hsize')
        exact hlt
  | error e =>
    -- Whether the error is passed on or not, the index does not count as complete.
    have hfalse : valid = false := by
      rcases fileSize?_of_error hstat with hnone | herror
      · rw [hnone] at hvalid
        exact (Except.ok.inj hvalid).symm
      · rw [herror] at hvalid
        cases e with
        | system errno path => exact (Except.ok.inj hvalid).symm
        | _ => cases hvalid
    rw [hfalse]
    refine ⟨fun hfalse => (by cases hfalse), ?_⟩
    rintro ⟨node, size, hnode, -⟩
    rw [hstat] at hnode
    cases hnode

end Staleness

namespace Git

/-- The fingerprint in an output is the stripped output, unless that is empty. -/
theorem fingerprintOf_eq_some {output fingerprint : String} :
    fingerprintOf output = some fingerprint ↔
      Text.strip output = fingerprint ∧ fingerprint ≠ "" := by
  unfold fingerprintOf
  dsimp only
  split
  · next hblank =>
    rw [hblank]
    simp [eq_comm]
  · next hblank =>
    rw [Option.some.injEq]
    constructor
    · rintro rfl
      exact ⟨rfl, hblank⟩
    · exact fun hstrip => hstrip.1

/-- A fingerprint that is found is what the version control program prints, and conversely. -/
theorem fingerprint_iff {h : Host} {root : FsPath} {current : Option String}
    (hcurrent : (fingerprint h root).outcome = .ok current) (text : String) :
    current = some text ↔ h.AtCommit text := by
  have hinterpret : (interpret root h.git).outcome = .ok current := hcurrent
  -- A program that prints nothing names no commit, whatever went wrong with it.
  have hother : (∀ output, h.git ≠ .printed output) → current = none →
      (current = some text ↔ h.AtCommit text) := by
    rintro hgit rfl
    refine ⟨fun hnone => (by cases hnone), ?_⟩
    rintro ⟨output, hprinted, -⟩
    exact absurd hprinted (hgit output)
  cases hgit : h.git with
  | printed output =>
    rw [hgit] at hinterpret
    obtain rfl := Except.ok.inj hinterpret
    rw [fingerprintOf_eq_some]
    constructor
    · exact fun hstrip => ⟨output, hgit, hstrip⟩
    · rintro ⟨output', hprinted, hstrip⟩
      rw [hgit, CommandOutcome.printed.injEq] at hprinted
      rw [hprinted]
      exact hstrip
  | refused errno file =>
    rw [hgit, interpret] at hinterpret
    refine hother (by simp [hgit]) ?_
    split at hinterpret
    · exact (Except.ok.inj hinterpret).symm
    · cases hinterpret
  | timedOut =>
    rw [hgit] at hinterpret
    exact hother (by simp [hgit]) (Except.ok.inj hinterpret).symm
  | failed code =>
    rw [hgit] at hinterpret
    exact hother (by simp [hgit]) (Except.ok.inj hinterpret).symm

end Git

/-- What is to be done for the project at a root, given the entries of the project list, what the
host shows, and the file that would hold the index. -/
structure Verdict (rule : CaseRule) (h : Host) (root file : FsPath) (minSize : Int)
    (entries : List Value) (d : Decision) : Prop where
  /-- A project that no entry is about has to be registered. -/
  unlisted : entries.find? (Record.names rule root.text) = none → d = .registerFirst
  /-- A project without a complete index is refreshed in full. -/
  incomplete : ∀ e, entries.find? (Record.names rule root.text) = some (.map e) →
    ¬h.Holds file minSize → d = .fullRefreshAndWatch
  /-- A project that is at another commit than the first entry about it says is refreshed. An
  entry that names no commit differs from all. -/
  changed : ∀ e, entries.find? (Record.names rule root.text) = some (.map e) →
    h.Holds file minSize → ∀ fingerprint, h.AtCommit fingerprint →
      Record.storedFingerprint e ≠ some fingerprint → d = .refreshOnly
  /-- Otherwise there is nothing to do. -/
  unchanged : ∀ e, entries.find? (Record.names rule root.text) = some (.map e) →
    h.Holds file minSize →
      (∀ fingerprint, h.AtCommit fingerprint → Record.storedFingerprint e = some fingerprint) →
      d = .synced

namespace Staleness

variable {h : Host} {root file : FsPath} {minSize : Int} {stored : Option String}
  {staleness : Staleness}

/-- A judgement is made of the index, of the commit the project is at, and of the stored one. -/
theorem assess_parts (hassess : (assess .git h minSize root file stored).outcome = .ok staleness) :
    (indexComplete h file minSize).outcome = .ok staleness.indexValid ∧
      (Git.fingerprint h root).outcome = .ok staleness.current ∧ staleness.stored = stored := by
  change ((indexComplete h file minSize).andThen fun valid => (Git.fingerprint h root).andThen
    fun current => .done (Staleness.mk valid current stored)).outcome = _ at hassess
  unfold Traced.andThen at hassess
  cases hvalid : (indexComplete h file minSize).outcome with
  | error e =>
    rw [hvalid] at hassess
    cases hassess
  | ok valid =>
    cases hcurrent : (Git.fingerprint h root).outcome with
    | error e =>
      simp only [hvalid, hcurrent] at hassess
      cases hassess
    | ok current =>
      simp only [hvalid, hcurrent] at hassess
      obtain rfl := Except.ok.inj hassess
      exact ⟨rfl, rfl, rfl⟩

/-- The index, the commit the project is at, and the stored one make up a judgement. -/
theorem assess_of_parts {valid : Bool} {current : Option String}
    (hvalid : (indexComplete h file minSize).outcome = .ok valid)
    (hcurrent : (Git.fingerprint h root).outcome = .ok current) (stored : Option String) :
    (assess .git h minSize root file stored).outcome = .ok ⟨valid, current, stored⟩ := by
  change ((indexComplete h file minSize).andThen fun valid => (Git.fingerprint h root).andThen
    fun current => .done (Staleness.mk valid current stored)).outcome = _
  simp [Traced.andThen, Traced.done, hvalid, hcurrent]

/-- A project has changed if it is at a commit that is not the stored one. -/
theorem changed_iff : staleness.changed = true ↔
    ∃ fingerprint, staleness.current = some fingerprint ∧
      staleness.stored ≠ some fingerprint := by
  unfold changed
  cases staleness.current with
  | none => simp
  | some current => simp

/-- The decision for a registered project is the one that follows from the evidence. -/
theorem assess_verdict {rule : CaseRule} {entries : List Value} {e : Entries}
    (hfind : entries.find? (Record.names rule root.text) = some (.map e))
    (hassess : (assess .git h minSize root file (Record.storedFingerprint e)).outcome =
      .ok staleness) :
    Verdict rule h root file minSize entries staleness.decision := by
  obtain ⟨hvalid, hcurrent, hstored⟩ := assess_parts hassess
  have hholds := indexComplete_iff hvalid
  have hcommit := Git.fingerprint_iff hcurrent
  have hchanged : staleness.changed = true ↔ ∃ fingerprint, h.AtCommit fingerprint ∧
      Record.storedFingerprint e ≠ some fingerprint := by
    rw [changed_iff, hstored]
    simp only [hcommit]
  -- There is only one first entry.
  have hentry : ∀ e', entries.find? (Record.names rule root.text) = some (.map e') → e' = e := by
    intro e' he'
    rw [hfind, Option.some.injEq, Value.map.injEq] at he'
    exact he'.symm
  refine ⟨fun hnone => ?_, fun e' he' hincomplete => ?_, fun e' he' hcomplete text htext hne => ?_,
    fun e' he' hcomplete hsame => ?_⟩
  · rw [hfind] at hnone
    cases hnone
  · have hfalse : staleness.indexValid = false := by
      rwa [← hholds, Bool.not_eq_true] at hincomplete
    simp [decision, Decision.decide, hfalse]
  · obtain rfl := hentry e' he'
    have htrue : staleness.changed = true := hchanged.2 ⟨text, htext, hne⟩
    simp [decision, Decision.decide, hholds.2 hcomplete, htrue]
  · obtain rfl := hentry e' he'
    have hfalse : staleness.changed = false := by
      rw [← Bool.not_eq_true, hchanged]
      rintro ⟨text, htext, hne⟩
      exact hne (hsame text htext)
    simp [decision, Decision.decide, hholds.2 hcomplete, hfalse]

end Staleness

/-- A question about the index and the commit of a project. -/
def Ask.isAssessment : Ask → Bool
  | .assess _ _ _ => true
  | _ => false

namespace World

/-- The reply to a question about an index, in a world that asks the version control program. -/
theorem assess_of_parts {w : World} (hgit : w.fingerprints = .git) {root file : FsPath}
    {valid : Bool} {current : Option String}
    (hvalid : (Staleness.indexComplete w.host file w.minSize).outcome = .ok valid)
    (hcurrent : (Git.fingerprint w.host root).outcome = .ok current) (stored : Option String) :
    (World.assess root file stored w).1 = .ok ⟨valid, current, stored⟩ := by
  change (Staleness.assess w.fingerprints w.host w.minSize root file stored).outcome = _
  rw [hgit]
  exact Staleness.assess_of_parts hvalid hcurrent stored

/-- The world is the one in which all that was asked about indexes in a dialogue was answered. -/
def Assessed (w : World) (t : Dialogue) : Prop :=
  ∀ root file stored reply, ⟨.assess root file stored, reply⟩ ∈ t →
    (World.assess root file stored w).1 = reply

end World

end IndexSync
