import IndexSync.Proofs.Evidence
import IndexSync.Proofs.Interleaving.Errands
import IndexSync.Proofs.Validation

/-!
# The decision of an activation

An activation that ends as dispatched has read one project list. Its decision follows from the
entries of that list and, if one of them is about the project, from the world in which the index
was looked at.

* `Activation.Closed.evidence` — the list that was read, and what was looked at after that;
* `Interleaving.dispatched_verdict` — the decision is the one that the evidence calls for.
-/

namespace IndexSync

open Program

/-- Looking at the index serves neither to reach the service nor to get the project list. -/
theorem Ask.isAssessment_only {op : Ask} (h : op.isAssessment = true) :
    op.isProbe = false ∧ op.isPrompt = false ∧ op.isQuery = false := by
  cases op with
  | assess root file stored => exact ⟨rfl, rfl, rfl⟩
  | _ => cases h

namespace Activation

variable {s : Setup} {project : Project} {options : Option Options} {t : Dialogue} {d : Decision}

/-- What was asked while a project was reconciled and before, by where it stands in the dialogue of
an activation that dispatched a decision. -/
theorem Closed.cases {given looked started before : Dialogue}
    (ht : t = before ++ ⟨.enter (s.key project), .ok true⟩ ::
      (given ++ looked ++ started ++ [⟨.leave (s.key project), .ok ()⟩]))
    (hbefore : Outside before) (hstarted : ∀ a ∈ started, a.op.isPrompt = true) {a : Answer}
    (ha : a ∈ t) (hprobe : a.op.isProbe = false) (hprompt : a.op.isPrompt = false) :
    a ∈ given ∨ a ∈ looked := by
  have hne : ∀ {b : Answer}, b.op.isPrompt = true → a ≠ b := by
    rintro b hb rfl
    rw [hb] at hprompt
    cases hprompt
  rw [ht] at ha
  simp only [List.mem_append, List.mem_cons, List.not_mem_nil, or_false] at ha
  -- Before the claim there are probes only, and what follows the judgement is answered on the spot.
  rcases ha with ha | ha | ((ha | ha) | ha) | ha
  · have := hbefore a ha
    rw [hprobe] at this
    cases this
  · exact absurd ha (hne rfl)
  · exact Or.inl ha
  · exact Or.inr ha
  · exact absurd rfl (hne (hstarted a ha))
  · exact absurd ha (hne rfl)

/-- To judge a project takes no request for the list. -/
theorem Judged.ne_listing {records : List Record} {looked : Dialogue}
    (h : Judged s project records looked d) {a : Answer} (ha : a ∈ looked) :
    a.op ≠ Registry.listing := by
  unfold Judged at h
  split at h
  · obtain ⟨rfl, -⟩ := h
    cases ha
  · obtain ⟨staleness, rfl, -⟩ := h
    rw [List.mem_singleton.1 ha]
    intro heq
    cases heq

/-- An activation that dispatched a decision was given one project list, and the decision was made
from its entries and from what was looked at after that. -/
theorem Closed.evidence (h : Closed s options t project d) :
    ∃ r entries looked, ⟨Registry.listing, .ok r⟩ ∈ t ∧ Registry.entries? r = some entries ∧
      (∀ r', ⟨Registry.listing, .ok r'⟩ ∈ t → Registry.entries? r' ≠ none → r' = r) ∧
      Judged s project (Record.ofEntries entries) looked d ∧
      ∀ a, a.op.isAssessment = true → (a ∈ t ↔ a ∈ looked) := by
  obtain ⟨before, inside, ht, hbefore, given, records, looked, started, rfl, hgiven, hjudged,
    hstarted, -⟩ := h
  obtain ⟨n, queries, r, -, hqueries, hr, rfl⟩ := hgiven
  obtain ⟨entries, hentries, rfl⟩ := Registry.ofResponse_eq_records.1 hr
  refine ⟨r, entries, looked, by simp [ht], hentries, fun r' hr' hne => ?_, hjudged,
    fun a hassess => ⟨fun ha => ?_, fun ha => by simp [ht, ha]⟩⟩
  · have hprobe : Registry.listing.isProbe = false := by decide
    rcases Closed.cases ht hbefore hstarted hr' hprobe rfl with hmem | hmem
    · rcases List.mem_append.1 hmem with hmem | hmem
      · -- All requests before the last one brought no list.
        obtain ⟨entries', hentries'⟩ := Option.ne_none_iff_exists'.1 hne
        refine absurd ⟨r', hmem, ?_⟩ (hqueries.missed (Record.ofEntries entries'))
        exact Registry.ofResponse_eq_records.2 ⟨entries', hentries', rfl⟩
      · simp only [List.mem_singleton, Answer.mk.injEq, heq_eq_eq, true_and] at hmem
        exact Except.ok.inj hmem
    · exact absurd rfl (hjudged.ne_listing hmem)
  · obtain ⟨hprobe, hprompt, hquery⟩ := Ask.isAssessment_only hassess
    refine (Closed.cases ht hbefore hstarted ha hprobe hprompt).resolve_left fun hmem => ?_
    rcases List.mem_append.1 hmem with hmem | hmem
    · rw [hqueries.ops a hmem] at hquery
      cases hquery
    · rw [List.mem_singleton.1 hmem] at hassess
      cases hassess

/-- The decision for a project is the one that the evidence calls for. -/
theorem Judged.verdict {entries : List Value} {looked : Dialogue} {w : World}
    (h : Judged s project (Record.ofEntries entries) looked d)
    (hsize : w.minSize = s.config.index.minSize) (hgit : w.fingerprints = .git)
    (hw : w.Assessed looked) :
    Verdict s.caseRule w.host project.root (s.indexFile project.root) s.config.index.minSize
        entries d ∧
      (entries.find? (Record.names s.caseRule project.root.text) = none → looked = []) := by
  unfold Judged at h
  rw [Record.find?_ofEntries] at h
  cases hfind : entries.find? (Record.names s.caseRule project.root.text) with
  | none =>
    rw [hfind, Option.bind_none] at h
    obtain ⟨hlooked, rfl⟩ := h
    refine ⟨⟨fun _ => rfl, ?_, ?_, ?_⟩, fun _ => hlooked⟩
    · intro e he
      rw [hfind] at he
      cases he
    · intro e he
      rw [hfind] at he
      cases he
    · intro e he
      rw [hfind] at he
      cases he
  | some v =>
    -- The record that was found is the one made of the first entry about the root.
    obtain ⟨e, record, rfl, hrecord, hstored, -⟩ :=
      Record.exists_record_of_names (List.find?_some hfind)
    rw [hfind, Option.bind_some, hrecord] at h
    obtain ⟨staleness, rfl, rfl⟩ := h
    refine ⟨Staleness.assess_verdict hfind ?_, fun hnone => by cases hnone⟩
    have hassess := hw _ _ _ _ (List.mem_singleton.2 rfl)
    rw [← hsize, ← hgit, ← hstored]
    exact hassess

end Activation

namespace Interleaving

/-- An activation that ends as dispatched was given one project list, and its decision is the one
that the entries of the list, the file named after the hash of the key of the root, and the version
control program call for. If no entry is about the root, neither the file nor the version control
program is looked at. -/
theorem dispatched_verdict (s : Setup) (moves : List Move) (a : TaskId) (party : Party)
    (hp : (run s moves).parties[a]? = some party) (hactivation : party.job.isActivation = true)
    (result : Activation.Result) (hend : party.state = .ended (.ok (.activation (some result))))
    (hstatus : result.status = .dispatched) (w : World)
    (hsize : w.minSize = s.config.index.minSize) (hgit : w.fingerprints = .git)
    (hw : w.Assessed ((run s moves).dialogue a)) :
    ∃ project d, result = ⟨.dispatched, some project, some d⟩ ∧
      (∃ r, ⟨Registry.listing, .ok r⟩ ∈ (run s moves).dialogue a ∧ Registry.entries? r ≠ none) ∧
      ∀ r entries, ⟨Registry.listing, .ok r⟩ ∈ (run s moves).dialogue a →
        Registry.entries? r = some entries →
        Verdict s.caseRule w.host project.root
          (s.config.index.dir.child (String.ofList ((Sha256.hexDigest (Text.Utf8.encode
            (PathKey.ofText s.caseRule project.root.text))).take 16) ++ ".db"))
          s.config.index.minSize entries d ∧
        (entries.find? (Record.names s.caseRule project.root.text) = none →
          ∀ answer ∈ (run s moves).dialogue a, answer.op.isAssessment = false) := by
  obtain ⟨options, hjob⟩ := Job.exists_activation? hactivation
  obtain ⟨-, hrest⟩ := (run_reachable s moves).follows (Job.program_guarded s) a party hp
  rw [hend, Task.State.residual, ensures_done, Job.GuardedEnd, hjob] at hrest
  obtain ⟨project, d, hclosed, hresult⟩ := hrest.closed hstatus
  obtain ⟨r, entries, looked, hr, hentries, honly, hjudged, hlooked⟩ := hclosed.evidence
  have hassessed : w.Assessed looked := fun root file stored reply hmem =>
    hw root file stored reply ((hlooked _ rfl).2 hmem)
  refine ⟨project, d, hresult, ⟨r, hr, by rw [hentries]; simp⟩, fun r' entries' hr' hentries' => ?_⟩
  -- Any list that was given is the one that was read.
  obtain rfl := honly r' hr' (by rw [hentries']; simp)
  obtain rfl := Option.some.inj (hentries.symm.trans hentries')
  obtain ⟨hverdict, hunlisted⟩ := hjudged.verdict hsize hgit hassessed
  refine ⟨hverdict, fun hnone answer hmem => ?_⟩
  cases hassess : answer.op.isAssessment with
  | false => rfl
  | true =>
    have hin := (hlooked answer hassess).1 hmem
    rw [hunlisted hnone] at hin
    cases hin

section Renewal

/-- A project at `/p`. -/
def homestead : Project := ⟨⟨.root, ["p"]⟩, ⟨.root, ["p", "p.uproject"]⟩⟩

/-- The entry of a project list that spells the root in another way and names the commit by its
older name. -/
def homesteadEntry : Value :=
  .map [(.str "root", .str "/x/../p/"), (.str "vcs_hash", .str "c1")]

/-- The response of a service that knows the project and no other. -/
def homesteadList : Response :=
  { ok := true, result := [(.str "projects", .list [homesteadEntry])] }

/-- A world in which the index of the project is complete, and the project is at another commit. -/
def renewed : World :=
  { host :=
      { Host.bare with
        disk := Disk.empty.put (Setup.standard.indexFile homestead.root).names
          (.file (.zeros 50001) Node.fileMode)
        git := .printed "c2\n" } }

/-- The replies to a user in the project, from a service that knows it. -/
def knowing : (op : Ask) → Except Failure op.Reply
  | .wait _ => .ok ()
  | .request _ _ => .ok homesteadList
  | .locate => .ok (some homestead)
  | .assess _ _ _ => .ok ⟨true, some "c2", some "c1"⟩
  | _ => .error .nothingToSave

/-- An activation goes through. -/
def renewal : List Move :=
  let turn : List Move := [.go 0, .reply 0 knowing]
  .start (.activation none) :: (turn ++ turn ++ turn ++ turn ++ turn) ++ [.go 0]

/-- In that world, the index is found complete. -/
theorem renewed_complete : (Staleness.indexComplete renewed.host
    (Setup.standard.indexFile homestead.root) renewed.minSize).outcome = .ok true := by
  have hvalid : (Staleness.indexComplete renewed.host (Setup.standard.indexFile homestead.root)
      renewed.minSize).outcome.toOption = some true := by
    decide +kernel
  cases hreply : (Staleness.indexComplete renewed.host (Setup.standard.indexFile homestead.root)
      renewed.minSize).outcome with
  | error e =>
    rw [hreply] at hvalid
    cases hvalid
  | ok valid =>
    rw [hreply] at hvalid
    rw [Option.some.inj hvalid]

/-- In that world, the index is found complete and the project at the newer commit. -/
theorem renewed_assess (stored : Option String) :
    (World.assess homestead.root (Setup.standard.indexFile homestead.root) stored renewed).1 =
      .ok ⟨true, some "c2", stored⟩ :=
  World.assess_of_parts rfl renewed_complete rfl stored

/-- The index was looked at in that world. -/
theorem renewed_assessed : renewed.Assessed ((run .standard renewal).dialogue 0) := by
  intro root file stored reply hmem
  have honly : ((run .standard renewal).dialogue 0).filter (fun a => a.op.isAssessment) =
      [⟨.assess homestead.root (Setup.standard.indexFile homestead.root) (some "c1"),
        .ok ⟨true, some "c2", some "c1"⟩⟩] := rfl
  have hin : ⟨.assess root file stored, reply⟩ ∈
      ((run .standard renewal).dialogue 0).filter (fun a => a.op.isAssessment) :=
    List.mem_filter.2 ⟨hmem, rfl⟩
  rw [honly, List.mem_singleton] at hin
  cases hin
  exact renewed_assess (some "c1")

/-- The decision for a project that is at another commit than its entry says is to refresh it. -/
theorem renewal_verdict : renewed.Assessed ((run .standard renewal).dialogue 0) ∧ ∃ file,
    Verdict .sensitive renewed.host homestead.root file 50000 [homesteadEntry] .refreshOnly := by
  obtain ⟨project, d, hresult, -, hverdict⟩ := dispatched_verdict .standard renewal 0
    ⟨.activation none, 0, .ended (.ok (.activation
      (some ⟨.dispatched, some homestead, some .refreshOnly⟩)))⟩ rfl rfl _ rfl rfl renewed rfl rfl
    renewed_assessed
  cases hresult
  have honly : ((run .standard renewal).dialogue 0).filter
      (fun a => a.op.requestName? == some Registry.listRequest) =
        [⟨Registry.listing, .ok homesteadList⟩] := rfl
  have hin : ⟨Registry.listing, .ok homesteadList⟩ ∈ ((run .standard renewal).dialogue 0).filter
      (fun a => a.op.requestName? == some Registry.listRequest) := by
    rw [honly]
    exact List.mem_cons_self
  exact ⟨renewed_assessed, _, (hverdict _ _ (List.mem_filter.1 hin).1 rfl).1⟩

end Renewal

end Interleaving

end IndexSync
