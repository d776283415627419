import IndexSync.Proofs.Activation.Rules

/-!
# How activations fail

An activation contains none of the failures it meets: it returns a result if no question of its own
was answered by a failure, and otherwise it ends with the first of these failures. Only the claim on
the project is still given up then.

* `Activation.Passed` — a result fits a dialogue in this sense;
* `Activation.run_passed` — an activation whose budgets are accepted ends like this.
-/

namespace IndexSync

open Program

/-- The failure that something ended with. -/
def failureOf {α : Type} : Except Failure α → Option Failure
  | .ok _ => none
  | .error e => some e

theorem failureOf_eq_none {α : Type} {r : Except Failure α} :
    failureOf r = none ↔ ∃ a, r = .ok a := by
  cases r <;> simp [failureOf]

theorem failureOf_eq_some {α : Type} {r : Except Failure α} {e : Failure} :
    failureOf r = some e ↔ r = .error e := by
  cases r <;> simp [failureOf]

/-- The failure that a question was answered by. -/
def Answer.failure? (a : Answer) : Option Failure := failureOf a.reply

/-- The first failure that a question of a dialogue was answered by. -/
def Dialogue.failure? (t : Dialogue) : Option Failure := t.findSome? Answer.failure?

@[simp]
theorem Dialogue.failure?_nil : Dialogue.failure? [] = none := rfl

@[simp]
theorem Dialogue.failure?_append (t u : Dialogue) :
    Dialogue.failure? (t ++ u) = t.failure?.or u.failure? := List.findSome?_append

@[simp]
theorem Dialogue.failure?_singleton (a : Answer) : Dialogue.failure? [a] = a.failure? := by
  cases h : a.failure? <;> simp [failure?, h]

/-- No question of a dialogue was answered by a failure. -/
theorem Dialogue.failure?_eq_none {t : Dialogue} :
    t.failure? = none ↔ ∀ a ∈ t, a.failure? = none := List.findSome?_eq_none_iff

theorem Dialogue.exists_of_failure? {t : Dialogue} {e : Failure} (h : t.failure? = some e) :
    ∃ a ∈ t, a.failure? = some e := List.exists_of_findSome?_eq_some h

/-- The questions in a dialogue of a program were answered in ways that can arise. -/
theorem Program.Leads.permits {α : Type} {p q : Program α} {t : Dialogue} (h : p.Leads t q) :
    ∀ a ∈ t, a.op.Permits a.reply := by
  induction h with
  | here p => exact fun a ha => absurd ha (by simp)
  | next hreply _ ih => exact List.forall_mem_cons.2 ⟨hreply, ih⟩

/-- A question that activations ask. -/
def Ask.isOfActivation : Ask → Bool
  | .emit _ => true
  | .wait _ => true
  | .request _ _ => true
  | .locate => true
  | .assess _ _ _ => true
  | .enter _ => true
  | .leave _ => true
  | .spawn _ _ => true
  | _ => false

namespace Activation

variable {α : Type} {t : Dialogue} {s : Setup} {options : Option Options} {project : Project}

/-- A question that activations ask, whatever the dialogue before it. -/
abbrev OwnAsk : Dialogue → Ask → Prop := fun _ op => op.isOfActivation = true

/-- Something ended as its dialogue tells: with a result if no question was answered by a failure,
and otherwise with the first failure. -/
def Passed (t : Dialogue) (r : Except Failure α) : Prop := t.failure? = failureOf r

/-- Nothing has failed yet. -/
abbrev Sound (t : Dialogue) : Prop := t.failure? = none

theorem Sound.snoc (h : Sound t) {op : Ask} (reply : Except Failure op.Reply) :
    Passed (t ++ [⟨op, reply⟩]) reply := by
  rw [Passed, Dialogue.failure?_append, h, Dialogue.failure?_singleton]
  rfl

theorem Sound.snoc_ok (h : Sound t) {op : Ask} (a : op.Reply) : Sound (t ++ [⟨op, .ok a⟩]) :=
  h.snoc (.ok a)

/-- A failure that is met is passed on, and otherwise one goes on. -/
theorem Sound.passing (h : Sound t) (op : Ask) {P : op.Reply → Dialogue → Prop}
    (hok : ∀ a t, Sound t → P a t) (reply : Except Failure op.Reply) :
    Passing (fun t (r : Except Failure α) => Passed t r) P (t ++ [⟨op, reply⟩]) reply := by
  have hpassed := h.snoc reply
  cases reply with
  | error e => exact hpassed
  | ok a => exact hok a _ hpassed

/-- Giving up a claim does not hide how something ended. -/
theorem Passed.snoc_leave {r : Except Failure α} (h : Passed t r) (key : String) :
    Passed (t ++ [⟨.leave key, .ok ()⟩]) r := by
  rw [Passed, Dialogue.failure?_append, Dialogue.failure?_singleton, ← h]
  exact Option.or_none

theorem querying_passed (interval : Int) (total : Nat) :
    Registry.Querying OwnAsk Passed (fun _ => Sound) interval total where
  emit := fun _ _ _ ht => ⟨rfl, ht.snoc _⟩
  wait := fun _ _ _ ht => ⟨rfl, ht.passing (.wait interval) fun _ _ hnext => hnext⟩
  ask := fun _ _ _ _ => rfl
  lost := fun _ _ _ _ ht => ht.snoc _
  given := fun _ _ _ _ _ ht _ => ht.snoc _
  missed := fun _ _ _ _ ht _ => ht.snoc _
  spent := fun _ ht => ht

theorem judge_passed (ht : Sound t) (records : List Record) :
    (judge s project records).Ensures OwnAsk Passed t := by
  rw [judge]
  split
  · exact ht
  · rw [ensures_bind, ensures_assess]
    exact ⟨rfl, ht.passing (.assess _ _ _) fun _ _ hnext => hnext⟩

/-- Starting what follows from a decision cannot fail. -/
theorem dispatch_passed (ht : Sound t) (d : Decision) (options : Option Options) :
    (Dispatch.dispatch d project options).Ensures OwnAsk Passed t := by
  -- All questions are answered on the spot.
  cases d <;>
    simp only [Dispatch.dispatch, Dispatch.start, Program.log, ensures_bind, ensures_emit,
      ensures_spawn, passing_ok, ensures_pure]
  case synced => exact ⟨rfl, ht.snoc _⟩
  case refreshOnly => exact ⟨rfl, rfl, fun _ => (ht.snoc_ok _).snoc_ok _⟩
  case fullRefreshAndWatch =>
    exact ⟨rfl, rfl, fun _ => ⟨rfl, fun _ => ((ht.snoc_ok _).snoc_ok _).snoc_ok _⟩⟩
  case registerFirst => exact ⟨rfl, rfl, fun _ => (ht.snoc_ok _).snoc_ok _⟩

theorem reconcile_passed (ht : Sound t) :
    (reconcile s project options).Ensures OwnAsk Passed t := by
  rw [reconcile, ensures_bind]
  refine ((querying_passed _ _).fetchWithRetry ht).weaken ?_
  rintro t (e | _ | records) hr
  · exact hr
  · exact hr
  · rw [passing_ok, ensures_bind]
    refine (judge_passed hr records).weaken ?_
    rintro t (e | d) hr
    · exact hr
    · rw [passing_ok, ensures_bind]
      refine (dispatch_passed hr d _).weaken ?_
      rintro t (e | tasks) hr
      · exact hr
      · exact hr

theorem guarded_passed (ht : Sound t) :
    (guarded s project options).Ensures OwnAsk Passed t := by
  refine Claiming.guarded
    { enter := rfl
      granted := ?_
      refused := fun e => ⟨rfl, (ht.snoc_ok _).snoc _⟩ }
  -- Giving the project up cannot fail.
  exact (reconcile_passed (ht.snoc_ok _)).weaken fun t r hr => ⟨rfl, hr.snoc_leave _⟩

/-- That there is no project yet is no failure. -/
theorem resolve_passed (ht : Sound t) (n : Nat) :
    (resolve s options).Ensures OwnAsk (Found Passed (fun _ => Sound) n) t :=
  Resolving.resolve
    { locate := rfl
      lost := fun _ => ht.snoc _
      early := fun _ => ⟨rfl, (ht.snoc_ok _).snoc _⟩
      found := fun _ => guarded_passed (ht.snoc_ok _) }

/-- An activation whose budgets are accepted ends as its dialogue tells. -/
theorem run_passed (options : Option Options)
    (hbudget : ∀ e, Budget.make s.config.polling.maxAttempts s.config.polling.warmup ≠ .error e) :
    (run s options).Ensures OwnAsk Passed [] := by
  refine Polling.run (I := fun _ => Sound)
    { refused := fun e he => absurd he (hbudget e)
      warmup := ⟨rfl, fun reply => ?_⟩
      emit := fun _ _ _ ht => ⟨rfl, ht.snoc _⟩
      wait := fun _ _ ms _ _ ht => ⟨rfl, ht.passing (.wait ms) fun _ _ hnext => hnext⟩
      ask := fun _ _ _ _ => rfl
      lost := fun _ _ _ _ ht => ht.snoc _
      missed := fun _ _ _ _ ht _ => ht.snoc _
      reached := fun _ _ _ _ ht _ => resolve_passed (ht.snoc_ok _) _
      spent := fun _ ht => ht }
  -- Nothing has happened before the first wait.
  exact Sound.passing (t := []) rfl (.wait _) (fun _ _ hnext => hnext) reply

end Activation

end IndexSync
