import IndexSync.Proofs.Interleaving.Course
import IndexSync.Proofs.Interleaving.Line
import IndexSync.Proofs.Trouble

/-!
# How activations end

Every task ends if it is answered whenever it pauses. An activation whose questions are answered in
worlds ends with a result, unless a world was in trouble with one of the questions; then it ends
with the failure that this gave rise to.

* `Interleaving.exists_ended` — a task that is answered whenever it pauses ends;
* `Interleaving.activation_ending` — when an activation ends with a result, and what it ends with
  otherwise.
-/

namespace IndexSync

open Program

namespace Job

/-- What a task that is an activation asks. -/
def OwnAsk : Job → Dialogue → Ask → Prop
  | .activation _ => Activation.OwnAsk
  | _ => fun _ _ => True

/-- A task that is an activation ends as its dialogue tells, and a result is that of an
activation. -/
def PassedEnd : Job → Dialogue → Except Failure Job.Result → Prop
  | .activation _ => fun t r => Activation.Passed t r ∧ (∀ a ∈ t, a.op.Permits a.reply) ∧
    ∀ value, r = .ok value → ∃ result, value = .activation (some result)
  | _ => fun _ _ => True

theorem program_passed {s : Setup} (hvalid : s.config.polling.Valid) (job : Job) :
    (job.program s).Ensures job.OwnAsk job.PassedEnd [] := by
  cases job with
  | activation options =>
    have hrun := Activation.run_passed options (Interleaving.budget_of_valid hvalid)
    rw [Job.program, ensures_bind]
    refine (hrun.and (ensures_leads _ [])).mono (fun t op hop => hop.1) ?_
    rintro t (e | result) ⟨hpassed, u, rfl, hleads⟩
    · exact ⟨hpassed, hleads.permits, fun value hvalue => (by cases hvalue)⟩
    · refine ⟨hpassed, hleads.permits, fun value hvalue => ⟨result, ?_⟩⟩
      exact (Except.ok.inj hvalue).symm
  | _ => exact (ensures_leads _ []).mono (fun _ _ _ => trivial) fun _ _ _ => trivial

end Job

namespace Interleaving

variable {s : Setup} {x : Interleaving} {a : TaskId}

section Ended

/-- The replies that a task is given one after the other. -/
abbrev Replies := Nat → (op : Ask) → Except Failure op.Reply

/-- A task goes on and is answered, for a number of times, and then goes on once more. -/
def attend (x : Interleaving) (id : TaskId) (replies : Replies) (n : Nat) : Interleaving :=
  (turnMoves id ((List.range n).map replies)).foldl move x

/-- The first time that a task is attended to, and the others. -/
theorem attend_succ (x : Interleaving) (id : TaskId) (replies : Replies) (n : Nat) :
    x.attend id replies (n + 1) =
      ((x.move (.go id)).move (.reply id (replies 0))).attend id (fun i => replies (i + 1)) n := by
  simp [attend, turnMoves, List.range_succ_eq_map, Function.comp_def]

/-- What a task that is attended to makes of it depends on where going on takes it. -/
theorem attend_of_go {y : Interleaving} {id : TaskId} (h : x.move (.go id) = y.move (.go id))
    (replies : Replies) (n : Nat) : x.attend id replies n = y.attend id replies n := by
  cases n with
  | zero => exact h
  | succ n => rw [attend_succ, attend_succ, h]

/-- A task that is ready ends if it is attended to. -/
theorem exists_ended_of_ready {program : Program Job.Result}
    (h : x.state? a = some (.ready program)) (replies : Replies) :
    ∃ n r, (x.attend a replies n).state? a = some (.ended r) := by
  -- Every answer leads to a smaller program, be it given on the spot or not.
  induction program generalizing x replies with
  | done r =>
    -- The task ends when it goes on, before it is answered anything.
    refine ⟨0, r, ?_⟩
    have hgo : x.attend a replies 0 = x.setState a (.ended r) := move_go h
    rw [hgo, state?_setState (lt_length_of_state? h)]
  | ask op next ih =>
    have hlt := lt_length_of_state? h
    have hgo := move_go h
    rw [proceed] at hgo
    cases hprompt : x.promptly a op with
    | some answered =>
      obtain ⟨reply, y⟩ := answered
      rw [hprompt] at hgo
      have hready : (y.answer a ⟨op, reply⟩ (next reply)).state? a = some (.ready (next reply)) :=
        state?_answer (Nat.lt_of_lt_of_le hlt (promptly_eq_some hprompt).2.1) _ _
      obtain ⟨n, r, hended⟩ := ih reply hready replies
      refine ⟨n, r, ?_⟩
      -- It goes on to where it would go once answered.
      rw [attend_of_go (hgo.trans (move_go hready).symm)]
      exact hended
    | none =>
      rw [hprompt] at hgo
      -- It pauses, and the first reply takes it on.
      have hblocked : (x.move (.go a)).state? a = some (.blocked op next) := by
        rw [hgo]
        exact state?_setState hlt _
      have hready := state?_answer (lt_length_of_state? hblocked) ⟨op, replies 0 op⟩
        (next (replies 0 op))
      obtain ⟨n, r, hended⟩ := ih _ hready fun i => replies (i + 1)
      refine ⟨n + 1, r, ?_⟩
      rw [attend_succ, move_reply_of_blocked hblocked]
      exact hended

/-- A task ends if it is answered whenever it pauses. -/
theorem exists_ended {state : Task.State} (h : x.state? a = some state) (replies : Replies) :
    ∃ n r, (x.attend a replies n).state? a = some (.ended r) := by
  -- A task that is not ready does not go on.
  have hrest : (∀ program, state ≠ .ready program) → x.move (.go a) = x := by
    intro hnot
    rw [move, h]
    split
    · next program heq => exact absurd (Option.some.inj heq) (hnot program)
    · rfl
  cases state with
  | ready program => exact exists_ended_of_ready h replies
  | ended r =>
    refine ⟨0, r, ?_⟩
    change (x.move (.go a)).state? a = _
    rw [hrest (fun _ heq => (by cases heq)), h]
  | blocked op next =>
    have hready := state?_answer (lt_length_of_state? h) ⟨op, replies 0 op⟩ (next (replies 0 op))
    obtain ⟨n, r, hended⟩ := exists_ended_of_ready hready fun i => replies (i + 1)
    refine ⟨n + 1, r, ?_⟩
    rw [attend_succ, hrest (fun _ heq => (by cases heq)), move_reply_of_blocked h]
    exact hended

end Ended

/-- How the activation `a` ends, if each of its questions so far was answered in a world. -/
structure Ending (s : Setup) (x : Interleaving) (a : TaskId) (worlds : Nat → World) : Prop where
  /-- It ends, whatever the further replies are. -/
  ends : ∀ replies, ∃ n r, (x.attend a replies n).state? a = some (.ended r)
  /-- Once it has ended, it has a result exactly if no world was in trouble with a question. -/
  result : ∀ r, x.state? a = some (.ended r) →
    ((∃ result, r = .ok (.activation (some result))) ↔
      ∀ i b, (x.dialogue a)[i]? = some b → ¬(worlds i).Trouble s b.op)
  /-- Otherwise it has ended with the failure by which such a question was answered. -/
  failure : ∀ e, x.state? a = some (.ended (.error e)) →
    ∃ i b, (x.dialogue a)[i]? = some b ∧ (worlds i).Trouble s b.op ∧ b.failure? = some e

/-- What is known of an activation that has ended: its dialogue tells how, and it asked what
activations ask. -/
theorem Reachable.ended_passed (h : Reachable s x) (hvalid : s.config.polling.Valid)
    {party : Party} (hp : x.parties[a]? = some party) {options : Option Options}
    (hjob : party.job = .activation options) {r : Except Failure Job.Result}
    (hr : x.state? a = some (.ended r)) :
    Activation.Passed (x.dialogue a) r ∧
      (∀ b ∈ x.dialogue a, b.op.isOfActivation = true ∧ b.op.Permits b.reply) ∧
      ∀ value, r = .ok value → ∃ result, value = .activation (some result) := by
  obtain ⟨hpast, hrest⟩ := h.follows (Job.program_passed hvalid) a party hp
  have hstate : party.state = .ended r := by
    rw [state?, hp] at hr
    exact Option.some.inj hr
  rw [hjob] at hpast hrest
  rw [hstate] at hrest
  obtain ⟨hpassed, hpermits, hshape⟩ := hrest
  refine ⟨hpassed, fun b hb => ⟨?_, hpermits b hb⟩, hshape⟩
  obtain ⟨t, u, htu⟩ := List.append_of_mem hb
  exact hpast t b u htu

/-- Every activation of a checked configuration ends with a result, unless a world that it took
place in was in trouble with one of its questions. -/
theorem activation_ending (s : Setup) (home : Option FsPath) (data : Entries)
    (hconfig : Config.ofEntries home data = .ok s.config) (moves : List Move) (a : TaskId)
    (party : Party) (hp : (run s moves).parties[a]? = some party) (options : Option Options)
    (hjob : party.job = .activation options) (worlds : Nat → World)
    (hworlds : ∀ i b, ((run s moves).dialogue a)[i]? = some b →
      (worlds i).OfProcess s ∧ (worlds i).Answers b) :
    Ending s (run s moves) a worlds := by
  have hended := fun r hr => (run_reachable s moves).ended_passed (r := r)
    (Config.ofEntries_valid hconfig) hp hjob hr
  generalize run s moves = x at hp hworlds hended ⊢
  -- Each question was answered by a failure exactly if its world was in trouble with it.
  have hfails : ∀ r, x.state? a = some (.ended r) → ∀ i b, (x.dialogue a)[i]? = some b →
      ((∃ e, b.failure? = some e) ↔ (worlds i).Trouble s b.op) := by
    intro r hr i b hb
    obtain ⟨-, hasked, -⟩ := hended r hr
    obtain ⟨hown, hpermits⟩ := hasked b (List.mem_of_getElem? hb)
    obtain ⟨hprocess, hanswers⟩ := hworlds i b hb
    exact hanswers.fails_iff hprocess hown hpermits
  refine ⟨exists_ended (state?_eq_some.2 ⟨party, hp, rfl⟩), fun r hr => ?_, fun e hr => ?_⟩
  · obtain ⟨hpassed, -, hshape⟩ := hended r hr
    constructor
    · -- A question that met trouble was answered by a failure, and there was none.
      rintro ⟨result, rfl⟩ i b hb htrouble
      obtain ⟨e, he⟩ := (hfails _ hr i b hb).2 htrouble
      rw [Dialogue.failure?_eq_none.1 hpassed b (List.mem_of_getElem? hb)] at he
      cases he
    · -- Without trouble there was no failure that could have been passed on.
      intro hquiet
      have hnone : (x.dialogue a).failure? = none := by
        refine Dialogue.failure?_eq_none.2 fun b hb => ?_
        obtain ⟨i, hi⟩ := List.mem_iff_getElem?.1 hb
        by_contra hne
        exact hquiet i b hi ((hfails r hr i b hi).1 (Option.ne_none_iff_exists'.1 hne))
      obtain ⟨value, rfl⟩ := failureOf_eq_none.1 (hpassed.symm.trans hnone)
      obtain ⟨result, rfl⟩ := hshape value rfl
      exact ⟨result, rfl⟩
  · obtain ⟨hpassed, -, -⟩ := hended _ hr
    obtain ⟨b, hb, he⟩ := Dialogue.exists_of_failure? hpassed
    obtain ⟨i, hi⟩ := List.mem_iff_getElem?.1 hb
    exact ⟨i, b, hi, (hfails _ hr i b hi).1 ⟨e, he⟩, he⟩

section Deleted

/-- The replies to a user whose working directory was deleted, from a service that does what it is
asked. -/
def placeless : (op : Ask) → Except Failure op.Reply
  | .locate => .error (.system Errno.noEntry none)
  | op => obliging op

/-- The service is reached, and then the project is searched for. -/
def stranding : List Move :=
  .start (.activation none) :: turnMoves 0 (List.replicate 3 placeless)

/-- A world in which the working directory was deleted. -/
def deserted : World :=
  { host := { Host.bare with cwd := none }
    patterns := Config.standard.project.patterns
    scheduling := .own }

/-- Where the working directory was deleted, an activation ends with the failure to tell it. -/
theorem stranding_ending :
    Config.ofEntries (some ⟨.root, []⟩) [] = .ok Setup.standard.config ∧
      deserted.OfProcess .standard ∧
      (∀ b ∈ (run .standard stranding).dialogue 0, deserted.Answers b) ∧
      (run .standard stranding).state? 0 = some (.ended (.error (.system Errno.noEntry none))) ∧
      ∃ b ∈ (run .standard stranding).dialogue 0, deserted.Trouble .standard b.op ∧
        b.failure? = some (.system Errno.noEntry none) := by
  have hprocess : deserted.OfProcess .standard := ⟨⟨none, rfl⟩, rfl, rfl⟩
  have hanswers : ∀ b ∈ (run .standard stranding).dialogue 0, deserted.Answers b := by
    have hdialogue : (run .standard stranding).dialogue 0 =
        [⟨.wait 200, .ok ()⟩, ⟨Activation.probe .standard, .ok { ok := true }⟩,
          ⟨.locate, .error (.system Errno.noEntry none)⟩] := rfl
    rw [hdialogue]
    simp only [List.forall_mem_cons, List.not_mem_nil, false_implies, implies_true, and_true]
    exact ⟨rfl, ⟨_, rfl⟩, rfl⟩
  have hending := activation_ending .standard _ _ Config.ofEntries_nil stranding 0
    ⟨.activation none, 0, .ended (.error (.system Errno.noEntry none))⟩ rfl none rfl
    (fun _ => deserted) fun i b hb => ⟨hprocess, hanswers b (List.mem_of_getElem? hb)⟩
  obtain ⟨i, b, hb, htrouble, hfailure⟩ := hending.failure _ rfl
  exact ⟨Config.ofEntries_nil, hprocess, hanswers, rfl, b, List.mem_of_getElem? hb, htrouble,
    hfailure⟩

end Deleted

end Interleaving

end IndexSync
