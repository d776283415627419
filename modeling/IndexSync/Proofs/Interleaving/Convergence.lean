import IndexSync.Proofs.Interleaving.Course
import IndexSync.Proofs.Interleaving.Verdict
import IndexSync.Proofs.Interleaving.Wire
import IndexSync.Proofs.PathText

/-!
# Convergence

Once the service and the disk have caught up with what an activation had brought about, every later
activation finds the project in order and leaves it alone. The root that the service was sent is the
one that the next activation looks for in the project list, and the index that it was told to write
is the file that the next activation looks at, although both of them travel as texts.

* `CaughtUp s w root file entries` — the project list and the world agree about a root;
* `Reachable.asked_name` — what an activation itself requests are probes and the project list;
* `caught_up_synced` — activations that find everything caught up do not request anything else.
-/

namespace IndexSync

open Program

/-- The project list has one entry about a root, which is at the commit that the root is at, if
that can be told, and there is a complete index at the path with the given text. -/
structure CaughtUp (s : Setup) (w : World) (root file : String) (entries : List Value) : Prop where
  /-- There is one entry about the root, and it has the fingerprint of the root. -/
  listed : ∃ e, entries.filter (Record.names s.caseRule root) = [.map e] ∧
    ∀ fingerprint, w.host.AtCommit fingerprint → Record.storedFingerprint e = some fingerprint
  /-- The index is complete. -/
  complete : w.host.Holds (.parse file) s.config.index.minSize

namespace CaughtUp

variable {s : Setup} {w : World} {project : Project} {entries : List Value} {d : Decision}

/-- There is nothing to do for a project once everything has caught up with it. -/
theorem synced (hdir : s.config.index.dir.Proper)
    (h : CaughtUp s w project.root.text (s.indexFile project.root).text entries)
    (hverdict : Verdict s.caseRule w.host project.root (s.indexFile project.root)
      s.config.index.minSize entries d) : d = .synced := by
  obtain ⟨e, hlisted, hfingerprint⟩ := h.listed
  have hfind : entries.find? (Record.names s.caseRule project.root.text) = some (.map e) := by
    rw [← List.head?_filter, hlisted, List.head?_cons]
  -- The text that was sent reads as the path that is looked at.
  have hfile : FsPath.parse (s.indexFile project.root).text = s.indexFile project.root :=
    FsPath.parse_text (PathKey.indexFile_proper hdir _)
  have hcomplete := h.complete
  rw [hfile] at hcomplete
  exact hverdict.unchanged e hfind hcomplete hfingerprint

end CaughtUp

namespace Interleaving

variable {s : Setup} {x : Interleaving}

/-- The requests of an activation itself are probes and requests for the project list. -/
theorem Reachable.asked_name (h : Reachable s x) {a : TaskId} {p : Party}
    (hp : x.parties[a]? = some p) {options : Option Options}
    (hjob : p.job.activation? = some options) {op : Ask} (hop : op ∈ x.asked a) {name : String}
    (hname : op.requestName? = some name) :
    name = Poll.pingRequest ∨ name = Registry.listRequest := by
  rcases h.asked_guarded hp hjob hop with hprobe | ⟨project, next, t, hinside⟩
  · cases op with
    | request name' params =>
      obtain rfl := Option.some.inj hname
      exact Or.inl (beq_iff_eq.1 hprobe)
    | _ => cases hname
  · obtain ⟨before, inside, -, -, hreconcile⟩ := hinside.ask
    obtain ⟨rfl, -⟩ := hreconcile.request name hname
    exact Or.inr (Option.some.inj hname).symm

/-- What is sent on behalf of an activation without errands are probes and requests for the project
list. -/
theorem Reachable.sent_alone (h : Reachable s x) {a : TaskId} {p : Party}
    (hp : x.parties[a]? = some p) {options : Option Options}
    (hjob : p.job.activation? = some options) (halone : ∀ c, x.originOf c = a → c = a) :
    ∀ name ∈ x.sent a, name = Poll.pingRequest ∨ name = Registry.listRequest := by
  intro name hname
  obtain ⟨c, op, hop, hc, hrequest⟩ := mem_sent.1 hname
  obtain rfl := halone c hc
  exact h.asked_name hp hjob hop hrequest

/-- The root of a project goes with every request for an action, and the file of its index goes with
its registration. -/
theorem wire_names (s : Setup) (project : Project) (d : Decision) (action : Action) :
    (Activation.wire s project d action).get? Setting.root.key = some (.str project.root.text) ∧
      ∀ v, (Activation.wire s project d action).get? Setting.indexPath.key = some v →
        v = .str (s.indexFile project.root).text := by
  cases action with
  | register =>
    refine ⟨rfl, fun v hv => ?_⟩
    exact (Option.some.inj hv).symm
  | refresh => exact ⟨rfl, fun v hv => by cases hv⟩
  | watch => exact ⟨rfl, fun v hv => by cases hv⟩

/-- The requests for actions that are sent on behalf of an activation that has dispatched a decision
name the root of its project and the file of its index. Every activation, of the same host or of
another one with the same configuration, that finds that project and dispatches a decision while all
project lists it is given have caught up with that root and that file decides that there is nothing
to do: it starts no task, and all that is sent on its behalf are probes and requests for the project
list. -/
theorem caught_up_synced (s s' : Setup) (hconfig : s'.config = s.config)
    (hrule : s'.caseRule = s.caseRule) (hdir : s.config.index.dir.Proper)
    (moves moves' : List Move) (a b : TaskId) (p q : Party)
    (hp : (run s moves).parties[a]? = some p) (hfirst : p.job.isActivation = true)
    (project : Project) (d : Decision)
    (hended : p.state = .ended (.ok (.activation (some ⟨.dispatched, some project, some d⟩))))
    (hq : (run s' moves').parties[b]? = some q) (hlater : q.job.isActivation = true)
    (result : Activation.Result)
    (hended' : q.state = .ended (.ok (.activation (some result))))
    (hstatus : result.status = .dispatched)
    (hroot : result.project.map Project.root = some project.root) (w : World)
    (hsize : w.minSize = s'.config.index.minSize) (hgit : w.fingerprints = .git)
    (hw : w.Assessed ((run s' moves').dialogue b))
    (hcaught : ∀ r entries, ⟨Registry.listing, .ok r⟩ ∈ (run s' moves').dialogue b →
      Registry.entries? r = some entries →
      CaughtUp s' w project.root.text (s.indexFile project.root).text entries) :
    (∀ (c : TaskId) (action : Action) params, (run s moves).originOf c = a →
      .request action.name params ∈ (run s moves).asked c →
      params.get? Setting.root.key = some (.str project.root.text) ∧
      ∀ v, params.get? Setting.indexPath.key = some v →
        v = .str (s.indexFile project.root).text) ∧
    result.decision = some .synced ∧
    (∀ c : TaskId, (run s' moves').originOf c = b → c = b) ∧
    ∀ name ∈ (run s' moves').sent b, name = Poll.pingRequest ∨ name = Registry.listRequest := by
  have hx := run_reachable s moves
  have hy := run_reachable s' moves'
  refine ⟨fun c action params hc hop => ?_, ?_⟩
  · -- Only errands request actions, and they do so for the decision.
    obtain ⟨options, hjob⟩ := Job.exists_activation? hfirst
    obtain ⟨e, he⟩ := hx.exists_of_asked (mem_asked.1 hop)
    have hne : c ≠ a := by
      rintro rfl
      exact (hx.asked_activation hp hjob hop).1 action params rfl
    have hkin : (run s moves).kin? c = some (e.job, a) := by
      rw [originOf, he] at hc
      rw [kin?, he]
      exact congrArg some (Prod.ext rfl hc)
    obtain ⟨project', d', action', hstate, -, -, -, hops⟩ := run_errand_handed hp hjob hkin hne
    rw [hended] at hstate
    cases hstate
    rcases hops _ hop with heq | ⟨-, heq⟩
    · obtain ⟨-, rfl⟩ := Ask.request.inj heq
      exact wire_names s project d action'
    · cases heq
  · obtain ⟨options, hjob⟩ := Job.exists_activation? hlater
    obtain ⟨-, hrest⟩ := hy.follows (Job.program_guarded s') b q hq
    rw [hended', Task.State.residual, ensures_done, Job.GuardedEnd, hjob] at hrest
    obtain ⟨project', d', hclosed, rfl⟩ := hrest.closed hstatus
    obtain ⟨r, entries, looked, hr, hentries, -, hjudged, hlooked⟩ := hclosed.evidence
    have hassessed : w.Assessed looked := fun root file stored reply hmem =>
      hw root file stored reply ((hlooked _ rfl).2 hmem)
    obtain ⟨hverdict, -⟩ := hjudged.verdict hsize hgit hassessed
    -- Both activations mean the same root and the same file.
    have hsame : project'.root = project.root := Option.some.inj hroot
    have hfile : s.indexFile project.root = s'.indexFile project'.root := by
      rw [Setup.indexFile, Setup.indexFile, hconfig, hrule, hsame]
    have hup := hcaught r entries hr hentries
    rw [hfile, ← hsame] at hup
    rw [← hconfig] at hdir
    obtain rfl := hup.synced hdir hverdict
    -- An activation with nothing to do starts no task.
    have hnone : (run s' moves').spawns b = [] := List.map_eq_nil_iff.1 hclosed.spawned
    have halone : ∀ c : TaskId, (run s' moves').originOf c = b → c = b :=
      fun c hc => hy.kinship.eq_of_originOf hnone hc
    exact ⟨rfl, halone, hy.sent_alone hq hjob halone⟩

section Return

/-- The entry of the project list once the service has caught up, which spells the root in another
way. -/
def settledEntry : Value :=
  .map [(.str "root", .str "/x/../p/"), (.str "vcs_fingerprint", .str "c2")]

/-- The replies to a user in the project, from a service that has caught up. -/
def settled : (op : Ask) → Except Failure op.Reply
  | .wait _ => .ok ()
  | .request _ _ => .ok { ok := true, result := [(.str "projects", .list [settledEntry])] }
  | .locate => .ok (some homestead)
  | .assess _ _ _ => .ok ⟨true, some "c2", some "c2"⟩
  | _ => .error .nothingToSave

/-- An activation finds the project unknown to the service and has it registered; later, another one
comes back to it. -/
def comeback : List Move :=
  let turns (a : TaskId) (replies : (op : Ask) → Except Failure op.Reply) : List Move :=
    .start (.activation none) :: (List.replicate 5 [.go a, .reply a replies]).flatten ++ [.go a]
  turns 0 obliging ++ [.go 1, .reply 1 obliging, .go 1] ++ turns 4 settled

/-- The index of the second activation was looked at in a world where the project is at the commit
that the service knows. -/
theorem comeback_assessed : renewed.Assessed ((run .standard comeback).dialogue 4) := by
  intro root file stored reply hmem
  have honly : ((run .standard comeback).dialogue 4).filter (fun a => a.op.isAssessment) =
      [⟨.assess homestead.root (Setup.standard.indexFile homestead.root) (some "c2"),
        .ok ⟨true, some "c2", some "c2"⟩⟩] := rfl
  have hin : ⟨.assess root file stored, reply⟩ ∈
      ((run .standard comeback).dialogue 4).filter (fun a => a.op.isAssessment) :=
    List.mem_filter.2 ⟨hmem, rfl⟩
  rw [honly, List.mem_singleton] at hin
  cases hin
  exact renewed_assess (some "c2")

/-- The directory of the indexes that is used without a configuration is proper. -/
theorem standard_dir : Setup.standard.config.index.dir.Proper := by decide

/-- Everything has caught up with the project. -/
theorem settled_caughtUp : CaughtUp .standard renewed homestead.root.text
    (Setup.standard.indexFile homestead.root).text [settledEntry] := by
  refine ⟨⟨_, rfl, ?_⟩, ?_⟩
  · rintro fingerprint ⟨text, htext, hstrip, -⟩
    obtain rfl := CommandOutcome.printed.inj htext
    rw [← hstrip]
    rfl
  · have hfile : FsPath.parse (Setup.standard.indexFile homestead.root).text =
        Setup.standard.indexFile homestead.root :=
      FsPath.parse_text (PathKey.indexFile_proper standard_dir _)
    rw [hfile]
    exact (Staleness.indexComplete_iff renewed_complete).1 rfl

/-- The second activation sends nothing but a probe and a request for the project list. -/
theorem comeback_synced :
    (run .standard comeback).sent 4 = [Poll.pingRequest, Registry.listRequest] ∧
    ∀ name ∈ (run .standard comeback).sent 4,
      name = Poll.pingRequest ∨ name = Registry.listRequest := by
  have honly : ((run .standard comeback).dialogue 4).filter
      (fun a => a.op.requestName? == some Registry.listRequest) =
        [⟨Registry.listing, settled Registry.listing⟩] := rfl
  have hcaught : ∀ r entries, ⟨Registry.listing, .ok r⟩ ∈ (run .standard comeback).dialogue 4 →
      Registry.entries? r = some entries →
      CaughtUp .standard renewed homestead.root.text
        (Setup.standard.indexFile homestead.root).text entries := by
    intro r entries hr hentries
    have hin : ⟨Registry.listing, .ok r⟩ ∈ ((run .standard comeback).dialogue 4).filter
        (fun a => a.op.requestName? == some Registry.listRequest) :=
      List.mem_filter.2 ⟨hr, rfl⟩
    rw [honly, List.mem_singleton] at hin
    cases hin
    obtain rfl := Option.some.inj hentries
    exact settled_caughtUp
  obtain ⟨-, -, -, hsent⟩ := caught_up_synced .standard .standard rfl rfl standard_dir
    comeback comeback 0 4 _ _ rfl rfl homestead .registerFirst rfl rfl rfl
    ⟨.dispatched, some homestead, some .synced⟩ rfl rfl rfl renewed rfl rfl comeback_assessed
    hcaught
  exact ⟨rfl, hsent⟩

end Return

end Interleaving

end IndexSync
