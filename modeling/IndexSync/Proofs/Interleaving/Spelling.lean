import IndexSync.Proofs.Indifference
import IndexSync.Proofs.Interleaving.Verdict
import IndexSync.Proofs.NearMisses

/-!
# The spelling of registered roots

The service spells the roots of its projects in its own way. Two interleavings in which the same is
started, goes on and is answered, except that the project lists spell the roots differently, go the
same way: every task asks the same questions, with the same parameters, and ends in the same way.

* `Move.Respelled rule` — two moves are the same up to the spelling of roots in project lists;
* `Interleaving.Respelled rule` — two interleavings are the same up to that;
* `Interleaving.run_respelled` — moves that are the same up to spelling lead to interleavings that
  are;
* `Interleaving.spelling_irrelevant` — neither spelling nor entries that are of no use or about
  other roots matter.
-/

namespace IndexSync

/-- Two moves are the same, except that they may reply with project lists that spell roots
differently. -/
def Move.Respelled (rule : CaseRule) : Move → Move → Prop
  | .start job, .start job' => job = job'
  | .go id, .go id' => id = id'
  | .reply id replies, .reply id' replies' =>
    id = id' ∧ ∀ op : Ask, op.Relisted rule (replies op) (replies' op)
  | _, _ => False

/-- Two moments are the same, except that project lists may spell roots differently. -/
inductive Moment.Respelled (rule : CaseRule) : Moment → Moment → Prop where
  /-- The same was asked. -/
  | asked (id : TaskId) (op : Ask) : Respelled rule (.asked id op) (.asked id op)
  /-- A question was answered with the same list of projects. -/
  | answered (id : TaskId) {op : Ask} {r r' : Except Failure op.Reply} (h : op.Relisted rule r r') :
    Respelled rule (.answered id ⟨op, r⟩) (.answered id ⟨op, r'⟩)

/-- A moment is the same as itself. -/
theorem Moment.Respelled.refl (rule : CaseRule) (m : Moment) : m.Respelled rule m := by
  cases m with
  | asked id op => exact .asked id op
  | answered id a => exact .answered id (Ask.Relisted.refl rule a.op a.reply)

namespace Interleaving

variable {s : Setup} {x y : Interleaving}

/-- The same interleaving with other moments. -/
def setMoments (x : Interleaving) (moments : List Moment) : Interleaving := { x with moments }

/-- What is answered on the spot does not depend on the moments. -/
theorem promptly_setMoments (x : Interleaving) (ms : List Moment) (id : TaskId) (op : Ask) :
    (x.setMoments ms).promptly id op =
      (x.promptly id op).map fun answered => (answered.1, answered.2.setMoments ms) := by
  cases op with
  | enter key =>
    have hflight : (x.setMoments ms).inFlight = x.inFlight := rfl
    simp only [promptly, hflight]
    split <;> rfl
  | _ => rfl

/-- How a task goes on does not depend on the moments, and it adds the same to all. -/
theorem proceed_setMoments (id : TaskId) (p : Program Job.Result) (x : Interleaving)
    (ms : List Moment) : ∃ u, (x.proceed id p).moments = x.moments ++ u ∧
      (x.setMoments ms).proceed id p = (x.proceed id p).setMoments (ms ++ u) := by
  induction p generalizing x ms with
  | done r => exact ⟨[], by simp [proceed], by rw [List.append_nil]; rfl⟩
  | ask op next ih =>
    rw [proceed, proceed, promptly_setMoments]
    cases hprompt : x.promptly id op with
    | none => exact ⟨[.asked id op], rfl, rfl⟩
    | some answered =>
      obtain ⟨reply, y⟩ := answered
      obtain ⟨hmoments, -, -⟩ := promptly_eq_some hprompt
      obtain ⟨u, hu, hsame⟩ := ih reply (y.answer id ⟨op, reply⟩ (next reply))
        (ms ++ [.answered id ⟨op, reply⟩])
      refine ⟨.answered id ⟨op, reply⟩ :: u, ?_, ?_⟩
      · simp only
        rw [hu, moments_answer, hmoments, List.append_assoc]
        rfl
      · rw [List.append_cons]
        exact hsame

/-- Two interleavings are the same, except that project lists may spell roots differently. -/
def Respelled (rule : CaseRule) (x y : Interleaving) : Prop :=
  ∃ moments, y = x.setMoments moments ∧ List.Forall₂ (Moment.Respelled rule) x.moments moments

/-- Moves that are the same up to spelling keep interleavings the same up to spelling. -/
theorem Respelled.move (h : x.Respelled s.caseRule y) (hx : Reachable s x) {m m' : Move}
    (hm : m.Respelled s.caseRule m') : (x.move m).Respelled s.caseRule (y.move m') := by
  obtain ⟨ms, rfl, hms⟩ := h
  have hstate : ∀ id, (x.setMoments ms).state? id = x.state? id := fun _ => rfl
  cases m with
  | start job =>
    cases m' with
    | start job' =>
      obtain rfl : job = job' := hm
      exact ⟨ms, rfl, hms⟩
    | _ => cases hm
  | go id =>
    cases m' with
    | go id' =>
      obtain rfl : id = id' := hm
      simp only [Interleaving.move, hstate]
      split
      · next p hp =>
        obtain ⟨u, hu, hsame⟩ := proceed_setMoments id p x ms
        refine ⟨ms ++ u, hsame, ?_⟩
        rw [hu]
        exact List.rel_append hms (List.forall₂_same.2 fun m _ => .refl _ m)
      · exact ⟨ms, rfl, hms⟩
    | _ => cases hm
  | reply id replies =>
    cases m' with
    | reply id' replies' =>
      obtain ⟨rfl, hreplies⟩ := hm
      simp only [Interleaving.move, hstate]
      split
      · next op next hblocked =>
        -- The task does not look at the spelling, so that it goes on in the same way.
        obtain ⟨p, hp, hpstate⟩ := state?_eq_some.1 hblocked
        have hindifferent := (hx.led id p hp).indifferent (p.job.program_relisted s)
        rw [hpstate] at hindifferent
        rw [hindifferent.1 _ _ (hreplies op)]
        refine ⟨ms ++ [.answered id ⟨op, replies' op⟩], rfl, ?_⟩
        exact List.rel_append hms (.cons (.answered id (hreplies op)) .nil)
      · exact ⟨ms, rfl, hms⟩
    | _ => cases hm

/-- Moves that are the same up to the spelling of roots lead to interleavings that are. -/
theorem run_respelled {moves moves' : List Move}
    (h : List.Forall₂ (Move.Respelled s.caseRule) moves moves') :
    (run s moves).Respelled s.caseRule (run s moves') := by
  suffices hfold : ∀ x y, Reachable s x → x.Respelled s.caseRule y →
      (moves.foldl Interleaving.move x).Respelled s.caseRule
        (moves'.foldl Interleaving.move y) from
    hfold _ _ .refl ⟨[], rfl, .nil⟩
  induction h with
  | nil => exact fun x y _ hxy => hxy
  | cons hm _ ih => exact fun x y hx hxy => ih _ _ (hx.trans (move_steps x _)) (hxy.move hx hm)

/-- Interleavings that are the same up to spelling have asked the same. -/
theorem Respelled.asked {rule : CaseRule} (h : x.Respelled rule y) (id : TaskId) :
    y.asked id = x.asked id := by
  obtain ⟨moments, rfl, hmoments⟩ := h
  change moments.filterMap (·.askedBy? id) = x.moments.filterMap (·.askedBy? id)
  generalize x.moments = before at hmoments ⊢
  induction hmoments with
  | nil => rfl
  | cons hm _ ih =>
    rw [List.filterMap_cons, List.filterMap_cons, ih]
    cases hm with
    | asked id' op => rfl
    | answered id' hr => rfl

/-- The spelling of roots in project lists is irrelevant. Interleavings whose moves differ in that
only have the same tasks, which stand at the same states with the same results, the same claims, and
the same questions asked in the same order. Lists whose usable entries are the same count as the
same list. Entries that are near misses are not found, and the judgement of a project is the same
with them as without, wherever they are. -/
theorem spelling_irrelevant (s : Setup) :
    (∀ moves moves', List.Forall₂ (Move.Respelled s.caseRule) moves moves' →
      (run s moves').parties = (run s moves).parties ∧
      (run s moves').inFlight = (run s moves).inFlight ∧
      List.Forall₂ (Moment.Respelled s.caseRule) (run s moves).moments (run s moves').moments ∧
      ∀ id, (run s moves').asked id = (run s moves).asked id) ∧
    (∀ r r' entries entries', Registry.entries? r = some entries →
      Registry.entries? r' = some entries' →
      (entries.filter fun v => (Record.ofValue? v).isSome) =
        (entries'.filter fun v => (Record.ofValue? v).isSome) →
      r.SameList s.caseRule r') ∧
    ∀ (project : Project) before others after,
      (∀ v ∈ others, Record.NearMiss s.caseRule project.root.text v) →
      Record.find? s.caseRule (Record.ofEntries others) project.root.text = none ∧
      Activation.judge s project (Record.ofEntries (before ++ others ++ after)) =
        Activation.judge s project (Record.ofEntries (before ++ after)) := by
  refine ⟨fun moves moves' h => ?_, fun r r' entries entries' hr hr' hsame => ?_,
    fun project before others after hmiss => ?_⟩
  · have hrespelled := run_respelled h
    have hasked := hrespelled.asked
    obtain ⟨moments, hy, hmoments⟩ := hrespelled
    refine ⟨by rw [hy]; rfl, by rw [hy]; rfl, ?_, hasked⟩
    rw [hy]
    exact hmoments
  · refine ⟨entries, entries', hr, hr', ?_⟩
    rw [Record.ofEntries_filter entries, Record.ofEntries_filter entries', hsame]
    exact List.forall₂_same.2 fun record _ => ⟨beq_self_eq_true _, rfl⟩
  · have hnames : ∀ v ∈ others, Record.names s.caseRule project.root.text v = false :=
      fun v hv => (hmiss v hv).not_names
    refine ⟨?_, ?_⟩
    · -- Entries that name no such project can be taken out of the list.
      have hinert := Record.find?_inert [] [] hnames
      rw [List.nil_append, List.append_nil] at hinert
      exact hinert
    · rw [Activation.judge, Record.find?_inert before after hnames, Activation.judge]

section Respelling

/-- The response of a service that spells the root in the usual way, names the commit by its present
name, and lists something of no use as well. -/
def plainList : Response :=
  { ok := true
    result := [(.str "projects", .list [.str "junk",
      .map [(.str "root", .str "/p"), (.str "vcs_fingerprint", .str "c1")]])] }

/-- The response of that service to a request. -/
def plainly (name : String) : Response :=
  if name = Registry.listRequest then plainList else homesteadList

/-- The same replies, from that service. -/
def respelling : (op : Ask) → Except Failure op.Reply
  | .request name _ => .ok (plainly name)
  | .wait ms => knowing (.wait ms)
  | .locate => knowing .locate
  | .assess root file stored => knowing (.assess root file stored)
  | _ => .error .nothingToSave

/-- An activation goes through with the given replies. -/
def passing (replies : (op : Ask) → Except Failure op.Reply) : List Move :=
  .start (.activation none) :: (List.replicate 5 [.go 0, .reply 0 replies]).flatten ++ [.go 0]

/-- Both lists name the same project. -/
theorem plainList_same : homesteadList.SameList .sensitive plainList :=
  ⟨_, _, rfl, rfl, .cons ⟨by decide, rfl⟩ .nil⟩

/-- The project is refreshed whichever list is given, and the directory above it does not count. -/
theorem passing_refreshed :
    ((run .standard (passing respelling)).state? 0 =
      some (.ended (.ok (.activation
        (some ⟨.dispatched, some homestead, some .refreshOnly⟩))))) ∧
    Record.find? .sensitive (Record.ofEntries [.map [(.str "root", .str "/p/q")]]) "/p" = none := by
  obtain ⟨hruns, -, hmisses⟩ := spelling_irrelevant .standard
  refine ⟨?_, ?_⟩
  · have hreplies : ∀ op : Ask, op.Relisted .sensitive (knowing op) (respelling op) := by
      intro op
      cases op with
      | request name params =>
        by_cases hname : name = Registry.listRequest
        · have hplain : plainly name = plainList := if_pos hname
          exact Or.inr ⟨hname, homesteadList, plainList, rfl, congrArg Except.ok hplain,
            plainList_same⟩
        · have hplain : plainly name = homesteadList := if_neg hname
          exact Or.inl (congrArg Except.ok hplain.symm)
      | _ => rfl
    have hmoves : List.Forall₂ (Move.Respelled .sensitive) (passing knowing)
        (passing respelling) := by
      simp [passing, Move.Respelled, hreplies]
    obtain ⟨hparties, -⟩ := hruns _ _ hmoves
    rw [state?, hparties]
    rfl
  · refine (hmisses homestead [] [.map [(.str "root", .str "/p/q")]] [] fun v hv => ?_).1
    rw [List.mem_singleton.1 hv]
    refine ⟨_, .str "/p/q", "/p", rfl, rfl, by decide, Or.inl ⟨by decide, [['q']], by simp, ?_⟩⟩
    decide

end Respelling

end Interleaving

end IndexSync
