import IndexSync.Proofs.Activation.Rules
import IndexSync.Proofs.Evidence
import IndexSync.Proofs.Interleaving.Basic
import Mathlib.Data.List.Forall2

/-!
# What programs do not look at

A program is indifferent to a difference between replies if it goes on in the same way whichever of
them it is given. The spelling of the roots in a project list is such a difference, and so are the
numbers of the tasks that were started.

* `Program.Indifferent A p` — replies to `p` that are related by `A` make no difference to it;
* `Ask.Relisted rule` — the replies list the same projects, whose roots may be spelled differently;
* `Ask.Renumbered` — the replies tell that a task was started, whatever its number;
* `Job.program_reserved` — no task but the one that waits for an activation looks at either;
* `Job.program_relisted` — no task at all looks at the spelling of roots.
-/

namespace IndexSync

namespace Program

variable {α β : Type} {A B : (op : Ask) → Except Failure op.Reply → Except Failure op.Reply → Prop}

/-- However a program is answered, replies that are related make no difference to it. -/
def Indifferent (A : (op : Ask) → Except Failure op.Reply → Except Failure op.Reply → Prop) :
    Program α → Prop
  | .done _ => True
  | .ask op next =>
    (∀ r r', A op r r' → next r = next r') ∧ ∀ r, (next r).Indifferent A

@[simp]
theorem indifferent_done (r : Except Failure α) : (Program.done r).Indifferent A := trivial

@[simp]
theorem indifferent_pure (a : α) : (pure a : Program α).Indifferent A := trivial

/-- Finer differences make no difference either. -/
theorem Indifferent.mono {p : Program α} (h : p.Indifferent B)
    (hAB : ∀ op r r', A op r r' → B op r r') : p.Indifferent A := by
  induction p with
  | done r => trivial
  | ask op next ih => exact ⟨fun r r' hr => h.1 r r' (hAB op r r' hr), fun r => ih r (h.2 r)⟩

theorem Indifferent.bind {p : Program α} {f : α → Program β} (hp : p.Indifferent A)
    (hf : ∀ a, (f a).Indifferent A) : (p >>= f).Indifferent A := by
  induction p with
  | done r =>
    cases r with
    | error e => trivial
    | ok a => exact hf a
  | ask op next ih =>
    exact ⟨fun r r' hr => congrArg (· >>= f) (hp.1 r r' hr), fun r => ih r (hp.2 r)⟩

theorem Indifferent.attempt {p : Program α} (hp : p.Indifferent A) :
    p.attempt.Indifferent A := by
  induction p with
  | done r => trivial
  | ask op next ih =>
    exact ⟨fun r r' hr => congrArg Program.attempt (hp.1 r r' hr), fun r => ih r (hp.2 r)⟩

/-- A question whose replies make no difference to what follows, if they are related and not
equal. -/
theorem indifferent_call_bind {op : Ask} {f : op.Reply → Program β}
    (hsame : ∀ r r', A op r r' → r = r' ∨ ∃ a a', r = .ok a ∧ r' = .ok a' ∧ f a = f a')
    (hf : ∀ a, (f a).Indifferent A) : (Program.call op >>= f).Indifferent A := by
  refine ⟨fun r r' hr => ?_, fun r => ?_⟩
  · rcases hsame r r' hr with rfl | ⟨a, a', rfl, rfl, hfa⟩
    · rfl
    · exact hfa
  · cases r with
    | error e => trivial
    | ok a => exact hf a

/-- A question to which only equal replies are related. -/
theorem indifferent_call {op : Ask} (h : ∀ r r', A op r r' → r = r') :
    (Program.call op).Indifferent A :=
  ⟨fun r r' hr => congrArg Program.done (h r r' hr), fun _ => trivial⟩

/-- A program that asks only questions to which only equal replies are related. -/
theorem Only.indifferent {C : Ask → Prop} {p : Program α} (hp : p.Only C)
    (hC : ∀ op, C op → ∀ r r', A op r r' → r = r') : p.Indifferent A := by
  induction p with
  | done r => trivial
  | ask op next ih =>
    exact ⟨fun r r' hr => congrArg next (hC op hp.1 r r' hr), fun r => ih r (hp.2 r)⟩

/-- What is left of a program is indifferent to what the program was. -/
theorem Leads.indifferent {p q : Program α} {t : Dialogue} (h : p.Leads t q)
    (hp : p.Indifferent A) : q.Indifferent A := by
  induction h with
  | here p => exact hp
  | next _ _ ih => exact ih (hp.2 _)

end Program

namespace Record

/-- Two records are about the same root, however it is spelled, and have the same fingerprint. -/
def Alike (rule : CaseRule) (a b : Record) : Prop :=
  PathKey.same rule a.root b.root = true ∧ a.fingerprint = b.fingerprint

/-- Roots that are spelled differently are found alike. -/
theorem find?_alike {rule : CaseRule} {records records' : List Record}
    (h : List.Forall₂ (Alike rule) records records') (root : String) :
    (find? rule records root).map Record.fingerprint =
      (find? rule records' root).map Record.fingerprint := by
  unfold find?
  induction h with
  | nil => rfl
  | @cons a b records records' hab _ ih =>
    obtain ⟨hsame, hfingerprint⟩ := hab
    have hkey : PathKey.ofText rule a.root = PathKey.ofText rule b.root := beq_iff_eq.1 hsame
    rw [List.find?_cons, List.find?_cons, hkey]
    split
    · exact congrArg some hfingerprint
    · exact ih

end Record

/-- Two responses list the same projects, however their roots are spelled. Entries that are of no
use do not count. -/
def Response.SameList (rule : CaseRule) (r r' : Response) : Prop :=
  ∃ entries entries', Registry.entries? r = some entries ∧ Registry.entries? r' = some entries' ∧
    List.Forall₂ (Record.Alike rule) (Record.ofEntries entries) (Record.ofEntries entries')

namespace Ask

/-- Replies that are equal, or else list the same projects, however their roots are spelled. -/
def Relisted (rule : CaseRule) :
    (op : Ask) → Except Failure op.Reply → Except Failure op.Reply → Prop
  | .request name _, r, r' =>
    r = r' ∨ name = Registry.listRequest ∧
      ∃ l l' : Response, r = .ok l ∧ r' = .ok l' ∧ l.SameList rule l'
  | _, r, r' => r = r'

/-- Replies that are equal, or else tell that a task was started, whatever its number. -/
def Renumbered : (op : Ask) → Except Failure op.Reply → Except Failure op.Reply → Prop
  | .spawn _ _, r, r' => r = r' ∨ ∃ id id' : TaskId, r = .ok id ∧ r' = .ok id'
  | _, r, r' => r = r'

/-- Replies that are equal apart from the spelling of roots or from the number of a task. -/
def Alike (rule : CaseRule) (op : Ask) (r r' : Except Failure op.Reply) : Prop :=
  op.Relisted rule r r' ∨ op.Renumbered r r'

/-- A question that neither asks for the project list nor starts a task. -/
def isPlain : Ask → Bool
  | .request name _ => name != Registry.listRequest
  | .spawn _ _ => false
  | _ => true

variable {rule : CaseRule} {op : Ask} {r r' : Except Failure op.Reply}

/-- Equal replies list the same projects. -/
theorem Relisted.refl (rule : CaseRule) (op : Ask) (r : Except Failure op.Reply) :
    op.Relisted rule r r := by
  cases op with
  | request name params => exact Or.inl rfl
  | _ => rfl

/-- Equal replies tell the same number. -/
theorem Renumbered.refl (op : Ask) (r : Except Failure op.Reply) : op.Renumbered r r := by
  cases op with
  | spawn name job => exact Or.inl rfl
  | _ => rfl

/-- Only what is answered to a request for the project list can be spelled differently. -/
theorem Relisted.eq (h : op.Relisted rule r r')
    (hop : ∀ params, op ≠ .request Registry.listRequest params) : r = r' := by
  cases op with
  | request name params =>
    rcases h with h | ⟨rfl, -⟩
    · exact h
    · exact absurd rfl (hop params)
  | _ => exact h

/-- The numbers of tasks aside, replies are equal. -/
theorem Renumbered.eq (h : op.Renumbered r r') (hop : ∀ name job, op ≠ .spawn name job) :
    r = r' := by
  cases op with
  | spawn name job => exact absurd rfl (hop name job)
  | _ => exact h

/-- Other questions have equal replies. -/
theorem Alike.eq (h : op.Alike rule r r') (hop : op.isPlain = true) : r = r' := by
  rcases h with h | h
  · exact h.eq (by rintro params rfl; cases hop)
  · exact h.eq (by rintro name job rfl; cases hop)

end Ask

open Program

/-- A job that looks neither at the spelling of roots nor at the numbers of tasks: any but the one
that waits for an activation. -/
def Job.isReserved : Job → Bool
  | .front => false
  | _ => true

/-- A question that starts no activation and no task that looks at numbers. -/
def Ask.Modest (op : Ask) : Prop :=
  ∀ name job, op = .spawn name job → job.isActivation = false ∧ job.isReserved = true

/-- A program looks neither at the spelling of roots nor at the numbers of tasks, and so do the
tasks that it starts, none of which is an activation. -/
structure Program.Reserved {α : Type} (rule : CaseRule) (p : Program α) : Prop where
  /-- Neither makes a difference to it. -/
  indifferent : p.Indifferent (Ask.Alike rule)
  /-- It starts only tasks to which neither makes a difference. -/
  modest : p.Only Ask.Modest

section Programs

variable {rule : CaseRule} {α β : Type}

namespace Program

theorem reserved_done (r : Except Failure α) : (Program.done r).Reserved rule := ⟨trivial, trivial⟩

theorem Reserved.bind {p : Program α} {f : α → Program β} (hp : p.Reserved rule)
    (hf : ∀ a, (f a).Reserved rule) : (p >>= f).Reserved rule :=
  ⟨hp.indifferent.bind fun a => (hf a).indifferent, hp.modest.bind fun a => (hf a).modest⟩

theorem Reserved.attempt {p : Program α} (hp : p.Reserved rule) : p.attempt.Reserved rule :=
  ⟨hp.indifferent.attempt, hp.modest.attempt⟩

/-- A question that neither asks for the project list nor starts a task. -/
theorem reserved_plain {op : Ask} (hop : op.isPlain = true) : (Program.call op).Reserved rule := by
  refine ⟨indifferent_call fun _ _ h => h.eq hop, only_call.2 ?_⟩
  rintro name job rfl
  cases hop

/-- A question whose replies make no difference to what follows, if they are alike and not equal. -/
theorem reserved_call_bind {op : Ask} {f : op.Reply → Program β} (hop : op.Modest)
    (hsame : ∀ r r', op.Alike rule r r' → r = r' ∨ ∃ a a', r = .ok a ∧ r' = .ok a' ∧ f a = f a')
    (hf : ∀ a, (f a).Reserved rule) : (Program.call op >>= f).Reserved rule :=
  ⟨indifferent_call_bind hsame fun a => (hf a).indifferent,
    (only_call.2 hop).bind fun a => (hf a).modest⟩

/-- A task is started, and what follows does not look at its number. -/
theorem reserved_spawn {name : String} {job : Job} {f : TaskId → Program β}
    (hjob : job.isActivation = false ∧ job.isReserved = true) (hsame : ∀ id id', f id = f id')
    (hf : ∀ id, (f id).Reserved rule) : (Program.spawn name job >>= f).Reserved rule := by
  refine reserved_call_bind (fun name' job' heq => ?_) (fun r r' h => ?_) hf
  · obtain ⟨-, rfl⟩ := Ask.spawn.inj heq
    exact hjob
  · rcases h with h | h | ⟨id, id', hr, hr'⟩
    · exact Or.inl h
    · exact Or.inl h
    · exact Or.inr ⟨id, id', hr, hr', hsame id id'⟩

end Program

namespace Registry

/-- The project list is asked for, and what follows does not look at the spelling of roots. -/
theorem fetch_reserved {f : Option (List Record) → Program β}
    (hsame : ∀ records records', List.Forall₂ (Record.Alike rule) records records' →
      f (some records) = f (some records'))
    (hf : ∀ records?, (f records?).Reserved rule) : (fetch >>= f).Reserved rule := by
  rw [fetch, bind_bind]
  refine reserved_call_bind (fun _ _ h => by cases h) (fun r r' h => ?_) fun r => ?_
  · rcases h with (h | ⟨-, l, l', hr, hr', entries, entries', hl, hl', hsimilar⟩) | h
    · exact Or.inl h
    · have hrecords := ofResponse_eq_records.2 ⟨entries, hl, rfl⟩
      have hrecords' := ofResponse_eq_records.2 ⟨entries', hl', rfl⟩
      refine Or.inr ⟨l, l', hr, hr', ?_⟩
      simp only [hrecords, hrecords', pure_bind]
      exact hsame _ _ hsimilar
    · exact Or.inl h
  · refine Reserved.bind ?_ hf
    split
    · exact reserved_done _
    · exact (reserved_plain rfl).bind fun _ => reserved_done _
    · exact (reserved_plain rfl).bind fun _ => reserved_done _

/-- The same for repeated requests. -/
theorem fetchUpTo_reserved {f : Option (List Record) → Program β}
    (hsame : ∀ records records', List.Forall₂ (Record.Alike rule) records records' →
      f (some records) = f (some records'))
    (hf : ∀ records?, (f records?).Reserved rule) (interval : Int) (left : Nat) :
    (fetchUpTo interval left >>= f).Reserved rule := by
  induction left with
  | zero => exact hf none
  | succ left ih =>
    rw [fetchUpTo, bind_bind]
    refine fetch_reserved (fun records records' h => ?_) fun records? => ?_
    · simp only [pure_bind]
      exact hsame _ _ h
    · split
      · exact hf _
      · split
        · exact hf none
        · rw [bind_bind]
          exact (reserved_plain rfl).bind fun _ => ih

end Registry

namespace Dispatch

/-- A decision is dispatched, and what follows does not look at the numbers of tasks. -/
theorem dispatch_reserved (d : Decision) (project : Project) (options : Option Options)
    {p : Program β} (hp : p.Reserved rule) :
    (dispatch d project options >>= fun _ => p).Reserved rule := by
  unfold dispatch
  cases d with
  | synced =>
    simp only [bind_bind, pure_bind]
    exact (reserved_plain rfl).bind fun _ => hp
  | refreshOnly =>
    simp only [bind_bind, pure_bind]
    exact (reserved_plain rfl).bind fun _ => reserved_spawn ⟨rfl, rfl⟩ (fun _ _ => rfl) fun _ => hp
  | fullRefreshAndWatch =>
    simp only [bind_bind, pure_bind]
    exact (reserved_plain rfl).bind fun _ => reserved_spawn ⟨rfl, rfl⟩ (fun _ _ => rfl) fun _ =>
      reserved_spawn ⟨rfl, rfl⟩ (fun _ _ => rfl) fun _ => hp
  | registerFirst =>
    simp only [bind_bind, pure_bind]
    exact (reserved_plain rfl).bind fun _ => reserved_spawn ⟨rfl, rfl⟩ (fun _ _ => rfl) fun _ => hp

theorem execute_reserved (crew : Crew) (action : Action) (options : Options) :
    (execute crew action options).Reserved rule := by
  rw [execute]
  split
  · exact reserved_plain rfl
  · refine Reserved.bind ?_ fun _ => reserved_done _
    rw [command]
    split
    · exact reserved_done _
    · refine (reserved_plain ?_).bind fun response => ?_
      · cases action <;> rfl
      · dsimp only
        split
        · exact (reserved_plain rfl).bind fun _ => reserved_done _
        · exact reserved_done _

theorem chainProgram_reserved (crew : Crew) (options : Options) :
    (chainProgram crew options).Reserved rule := by
  refine Reserved.bind ?_ fun registered => ?_
  · refine Reserved.bind (execute_reserved _ _ _).attempt fun r => ?_
    split
    · exact reserved_done _
    · exact (reserved_plain rfl).bind fun _ => reserved_done _
  · split
    · exact reserved_spawn ⟨rfl, rfl⟩ (fun _ _ => rfl) fun _ =>
        reserved_spawn ⟨rfl, rfl⟩ (fun _ _ => rfl) fun _ => reserved_done _
    · exact (reserved_plain rfl).bind fun _ => reserved_done _

theorem callProgram_reserved (crew : Crew) (action : Action) (options : Options) :
    (callProgram crew action options).Reserved rule := by
  refine Reserved.bind (execute_reserved _ _ _).attempt fun r => ?_
  split
  · exact reserved_done _
  · exact reserved_plain rfl

end Dispatch

namespace Activation

variable {s : Setup}

/-- A project is judged alike, however the roots of the records are spelled. -/
theorem judge_alike {records records' : List Record}
    (h : List.Forall₂ (Record.Alike s.caseRule) records records') (project : Project) :
    judge s project records = judge s project records' := by
  have hfind := Record.find?_alike h project.root.text
  unfold judge
  cases hrecord : Record.find? s.caseRule records project.root.text with
  | none =>
    rw [hrecord, Option.map_none] at hfind
    rw [Option.map_eq_none_iff.1 hfind.symm]
  | some record =>
    rw [hrecord, Option.map_some] at hfind
    obtain ⟨record', hrecord', hfingerprint⟩ := Option.map_eq_some_iff.1 hfind.symm
    simp only [hrecord', hfingerprint]

theorem reconcile_reserved (project : Project) (options : Option Options) :
    (reconcile s project options).Reserved s.caseRule := by
  rw [reconcile, Registry.fetchWithRetry, bind_bind]
  refine Registry.fetchUpTo_reserved (fun records records' h => ?_) (fun records? => ?_) _ _
  · simp only [pure_bind, judge_alike h]
  · split
    · rw [pure_bind]
      dsimp only
      refine Reserved.bind ?_ fun d => Dispatch.dispatch_reserved _ _ _ (reserved_done _)
      rw [judge]
      split
      · exact reserved_done _
      · exact (reserved_plain rfl).bind fun _ => reserved_done _
    · rw [bind_bind]
      exact (reserved_plain rfl).bind fun _ => reserved_done _

theorem resolve_reserved (options : Option Options) :
    (resolve s options).Reserved s.caseRule := by
  refine (reserved_plain rfl).bind fun project? => ?_
  split
  · exact (reserved_plain rfl).bind fun _ => reserved_done _
  · refine Reserved.bind ((reserved_plain rfl).bind fun free => ?_) fun _ => reserved_done _
    split
    · refine (reconcile_reserved _ _).attempt.bind fun r => ?_
      exact (reserved_plain rfl).bind fun _ => reserved_done _
    · exact (reserved_plain rfl).bind fun _ => reserved_done _

/-- Polling looks at no project list and starts no task by itself. -/
theorem loop_reserved {resolve : Program (Option Result)} (h : resolve.Reserved rule)
    (settings : Poll.Settings) (pid : Nat) (attempts left : Nat) :
    (Poll.loop settings pid resolve attempts left).Reserved rule := by
  have hgiveUp : ∀ n, (Poll.giveUp n : Program (Poll.Outcome Result)).Reserved rule :=
    fun n => (reserved_plain rfl).bind fun _ => reserved_done _
  induction left generalizing attempts with
  | zero => exact hgiveUp _
  | succ left ih =>
    refine Reserved.bind ?_ fun answered => ?_
    · refine Reserved.bind ((reserved_plain rfl).bind fun _ => reserved_done _) fun reached => ?_
      split
      · exact h.bind fun _ => reserved_done _
      · exact reserved_done _
    · split
      · exact reserved_done _
      · split
        · exact hgiveUp _
        · refine Reserved.bind ?_ fun _ => ih _
          exact (reserved_plain rfl).bind fun _ => reserved_plain rfl

theorem run_reserved (options : Option Options) : (run s options).Reserved s.caseRule := by
  refine Reserved.bind ?_ fun polled => ?_
  · rw [Poll.run]
    split
    · exact reserved_done _
    · refine Reserved.bind (Reserved.attempt ?_) fun r => ?_
      · exact (reserved_plain rfl).bind fun _ => loop_reserved (resolve_reserved options) _ _ _ _
      · split
        · exact reserved_done _
        · exact reserved_done _
  · refine Reserved.bind (reserved_done _) fun outcome => ?_
    split
    · exact reserved_done _
    · exact reserved_done _

end Activation

theorem workProgram_reserved (items : List WorkItem) : (workProgram items).Reserved rule := by
  induction items with
  | nil => exact reserved_done _
  | cons item items ih =>
    cases item with
    | note v => exact (reserved_plain rfl).bind fun _ => ih
    | gate name => exact (reserved_plain rfl).bind fun _ => ih
    | wait ms => exact (reserved_plain rfl).bind fun _ => ih
    | spawn name work =>
      exact reserved_spawn ⟨rfl, rfl⟩ (fun _ _ => rfl) fun _ =>
        (reserved_plain rfl).bind fun _ => ih
    | fail text => exact reserved_done _
    | finish v => exact reserved_done _

namespace Job

/-- The task that waits for an activation looks at its number, the others look neither at that nor
at the spelling of roots. -/
theorem program_reserved (s : Setup) {job : Job} (h : job.isReserved = true) :
    (job.program s).Reserved s.caseRule := by
  cases job with
  | activation options => exact (Activation.run_reserved options).bind fun _ => reserved_done _
  | resolution options => exact (Activation.resolve_reserved options).bind fun _ => reserved_done _
  | chain options => exact (Dispatch.chainProgram_reserved _ _).bind fun _ => reserved_done _
  | call action options =>
    exact (Dispatch.callProgram_reserved _ _ _).bind fun _ => reserved_done _
  | front => cases h
  | work items => exact (workProgram_reserved items).bind fun _ => reserved_done _
  | drain => exact (reserved_plain rfl).bind fun _ => reserved_done _

/-- No task looks at the spelling of roots. -/
theorem program_relisted (s : Setup) (job : Job) :
    (job.program s).Indifferent (Ask.Relisted s.caseRule) := by
  cases hreserved : job.isReserved with
  | true => exact (program_reserved s hreserved).indifferent.mono fun op r r' => Or.inl
  | false =>
    cases job with
    | front =>
      have honly : (Job.front.program s).Only
          fun op => ∀ params, op ≠ .request Registry.listRequest params := by
        refine Only.bind (Only.bind (only_call.2 (by simp)) fun _ => only_call.2 (by simp))
          fun _ => ?_
        exact Only.bind (only_call.2 (by simp)) fun _ =>
          Only.bind (only_call.2 (by simp)) fun _ => trivial
      exact honly.indifferent fun op hop r r' h => h.eq hop
    | _ => cases hreserved

end Job

end Programs

end IndexSync
