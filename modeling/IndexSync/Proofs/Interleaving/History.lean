import IndexSync.Proofs.Interleaving.Attribution

/-!
# The history of an interleaving

The moments of an interleaving tell in which order things happened. Whatever happened at one of
them can be looked at as it was then: the interleaving that was about to pause at a question, with
the moments before that one.
-/

namespace IndexSync.Interleaving

variable {s : Setup} {x y : Interleaving}

/-- A task that takes part keeps its job and its attribution. -/
theorem Step.kin? (h : Step x y) {i : Nat} {k : Job × TaskId} (hk : x.kin? i = some k) :
    y.kin? i = some k := by
  have hlt := lt_length_of_kin? x hk
  cases h with
  | start job => rw [kin?_add_of_lt x _ _ hlt, hk]
  | spawn hid => rw [kin?_answer, kin?_add_of_lt x _ _ hlt, hk]
  | _ => simpa using hk

/-- Moves are made up of single steps. -/
theorem foldl_move_steps (x : Interleaving) (moves : List Move) :
    Relation.ReflTransGen Step x (moves.foldl move x) := by
  induction moves generalizing x with
  | nil => exact .refl
  | cons m moves ih => exact (move_steps x m).trans (ih (x.move m))

/-- Moves change neither the jobs nor the attributions of tasks that take part. -/
theorem kin?_foldl_move {x : Interleaving} {i : Nat} {k : Job × TaskId} (later : List Move)
    (hk : x.kin? i = some k) : (later.foldl move x).kin? i = some k := by
  have hsteps := foldl_move_steps x later
  generalize later.foldl move x = y at hsteps ⊢
  induction hsteps with
  | refl => exact hk
  | tail _ hstep ih => exact hstep.kin? ih

/-- A step adds one moment at most. A question is asked by a task that was ready to ask it. -/
theorem Step.moments (h : Step x y) : y.moments = x.moments ∨
    (∃ id a, y.moments = x.moments ++ [.answered id a]) ∨
    ∃ id op next, y.moments = x.moments ++ [.asked id op] ∧
      x.state? id = some (.ready (.ask op next)) ∧ op.isPrompt = false := by
  cases h with
  | start job => exact Or.inl rfl
  | @pause id op next hid hop => exact Or.inr (Or.inr ⟨id, op, next, rfl, hid, hop⟩)
  | finish hid => exact Or.inl rfl
  | _ => exact Or.inr (Or.inl ⟨_, _, rfl⟩)

/-- There was a time, before `x`, when the moments were `pre` and a task was about to pause at a
question. The tasks that took part then have the same jobs and attributions in `x`. -/
def Snapshot (s : Setup) (pre : List Moment) (c : TaskId) (op : Ask) (x : Interleaving) : Prop :=
  ∃ y next, Reachable s y ∧ y.moments = pre ∧ y.state? c = some (.ready (.ask op next)) ∧
    op.isPrompt = false ∧ ∀ i k, y.kin? i = some k → x.kin? i = some k

/-- Whatever was asked was about to be asked once. -/
theorem Reachable.snapshot (h : Reachable s x) {pre post : List Moment} {c : TaskId} {op : Ask}
    (hm : x.moments = pre ++ .asked c op :: post) : Snapshot s pre c op x := by
  suffices hall : ∀ post, x.moments = pre ++ .asked c op :: post → Snapshot s pre c op x from
    hall post hm
  refine h.induction (P := fun x => ∀ post, x.moments = pre ++ .asked c op :: post →
    Snapshot s pre c op x) (fun post hm => ?_) fun x y hx ih hstep post hm => ?_
  · simp at hm
  · -- A question that was asked before the step is as it was then.
    have hlater : ∀ post', x.moments = pre ++ .asked c op :: post' → Snapshot s pre c op y := by
      intro post' hx'
      obtain ⟨z, next, hz, hmoments, hready, hop, hkin⟩ := ih post' hx'
      exact ⟨z, next, hz, hmoments, hready, hop, fun i k hk => hstep.kin? (hkin i k hk)⟩
    rcases hstep.moments with hsame | ⟨id, a, hanswered⟩ | ⟨id, op', next, hasked, hready, hop⟩
    · rw [hsame] at hm
      exact hlater _ hm
    · rw [hanswered] at hm
      rcases snoc_eq_append_cons hm with ⟨-, hlast, -⟩ | ⟨post', -, hx'⟩
      · cases hlast
      · exact hlater _ hx'
    · rw [hasked] at hm
      rcases snoc_eq_append_cons hm with ⟨-, hlast, hx'⟩ | ⟨post', -, hx'⟩
      · -- It is the question of this step.
        cases hlast
        exact ⟨x, next, hx, hx', hready, hop, fun i k hk => hstep.kin? hk⟩
      · exact hlater _ hx'

/-- A task that took part before does the same job later on. -/
theorem job_eq_of_kin? (hkin : ∀ i k, y.kin? i = some k → x.kin? i = some k) {i : Nat} {p q : Party}
    (hp : x.parties[i]? = some p) (hq : y.parties[i]? = some q) : q.job = p.job := by
  have hsame := (kin?_of_party hp).symm.trans (hkin i _ (kin?_of_party hq))
  exact (Prod.mk.inj (Option.some.inj hsame)).1.symm

/-- What a task had been answered at a moment. -/
def dialogueAt (pre : List Moment) (id : TaskId) : Dialogue :=
  pre.filterMap (·.answerTo? id)

/-- Where a question was asked, it was as the program of the task ensures. -/
theorem Reachable.asked_fits {Q : Job → Dialogue → Ask → Prop}
    {R : Job → Dialogue → Except Failure Job.Result → Prop}
    (hjob : ∀ job : Job, (job.program s).Ensures (Q job) (R job) []) (h : Reachable s x)
    {pre post : List Moment} {c : TaskId} {op : Ask}
    (hm : x.moments = pre ++ .asked c op :: post) {p : Party} (hp : x.parties[c]? = some p) :
    Q p.job (dialogueAt pre c) op := by
  obtain ⟨y, next, hy, rfl, hready, -, hkin⟩ := h.snapshot hm
  obtain ⟨q, hq, hstate⟩ := state?_eq_some.1 hready
  obtain ⟨-, hrest⟩ := hy.follows hjob c q hq
  rw [hstate, job_eq_of_kin? hkin hp hq] at hrest
  exact hrest.1

/-- Tasks that have asked something take part. -/
theorem Reachable.exists_of_asked (h : Reachable s x) {c : TaskId} {op : Ask}
    (hm : .asked c op ∈ x.moments) : ∃ p, x.parties[c]? = some p := by
  obtain ⟨pre, post, hsplit⟩ := List.append_of_mem hm
  obtain ⟨y, next, -, -, hready, -, hkin⟩ := h.snapshot hsplit
  obtain ⟨q, hq, -⟩ := state?_eq_some.1 hready
  obtain ⟨p, hp, -⟩ := exists_party_of_kin? (hkin c _ (kin?_of_party hq))
  exact ⟨p, hp⟩

/-- A task that goes on is answered on the spot only, and no other task asks anything. -/
theorem proceed_answers (id : TaskId) (p : Program Job.Result) (x : Interleaving) :
    (∃ u, (x.proceed id p).dialogue id = x.dialogue id ++ u ∧ ∀ a ∈ u, a.op.isPrompt = true) ∧
      ∀ i, id ≠ i → (x.proceed id p).asked i = x.asked i := by
  induction p generalizing x with
  | done r => exact ⟨⟨[], by simp [proceed]⟩, fun _ _ => rfl⟩
  | ask op next ih =>
    rw [proceed]
    split
    · next reply y hy =>
      obtain ⟨hmoments, -, -⟩ := promptly_eq_some hy
      obtain ⟨⟨u, hu, hprompt⟩, hothers⟩ := ih reply (y.answer id ⟨op, reply⟩ (next reply))
      -- Only questions of these four kinds are answered on the spot.
      have hop : op.isPrompt = true := by
        cases op with
        | emit | enter | leave | spawn => rfl
        | _ => cases hy
      refine ⟨⟨⟨op, reply⟩ :: u, ?_, fun a ha => ?_⟩, fun i hi => ?_⟩
      · rw [hu, dialogue_answer, if_pos rfl, dialogue, hmoments, List.append_assoc]
        rfl
      · rcases List.mem_cons.1 ha with rfl | ha
        · exact hop
        · exact hprompt a ha
      · rw [hothers i hi, asked_answer, asked, hmoments]
        rfl
    · exact ⟨⟨[], by simp⟩, fun i hi => by simp [hi]⟩

end IndexSync.Interleaving
