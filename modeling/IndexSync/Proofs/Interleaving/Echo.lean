import IndexSync.Proofs.Indifference
import IndexSync.Proofs.Interleaving.Line

/-!
# What an activation does by itself

Of an interleaving, the tasks that are attributed to one activation can be told apart. An echo is
another interleaving in which only these take part: they do the same jobs, ask the same questions in
the same order and are given the same replies, and the claims on projects are those that were made
before them and by them.

* `Interleaving.Echo a kin x y` — in `y`, there are only the tasks that are attributed to the
  activation `a` in `x`, and they have done and been answered the same;
* `Interleaving.Echo.move` and `Interleaving.Echo.move_foreign` — a move of one of these tasks can
  be made in both, and any other move leaves the echo as it is;
* `Interleaving.run_echo` — every activation has an echo that a lone activation leads to.
-/

namespace IndexSync

open Program

/-- A moment is about one of some tasks, and another one about the task with the number of its place
among them. Numbers of tasks may differ. -/
inductive Moment.Echo (kin : List TaskId) : Moment → Moment → Prop where
  /-- The same was asked. -/
  | asked {i : Nat} {c : TaskId} (hi : kin[i]? = some c) (op : Ask) :
    Echo kin (.asked c op) (.asked i op)
  /-- The same was answered. -/
  | answered {i : Nat} {c : TaskId} (hi : kin[i]? = some c) {op : Ask}
    {r r' : Except Failure op.Reply} (hr : op.Renumbered r r') :
    Echo kin (.answered c ⟨op, r⟩) (.answered i ⟨op, r'⟩)

/-- What was a place among some tasks is the same place among more tasks. -/
theorem Moment.Echo.append {kin : List TaskId} {m m' : Moment} (h : m.Echo kin m')
    (more : List TaskId) : m.Echo (kin ++ more) m' := by
  have hmore : ∀ {i : Nat} {c : TaskId}, kin[i]? = some c → (kin ++ more)[i]? = some c := by
    intro i c hi
    rw [List.getElem?_append_left (List.getElem?_eq_some_iff.1 hi).1, hi]
  cases h with
  | asked hi op => exact .asked (hmore hi) op
  | answered hi hr => exact .answered (hmore hi) hr

/-- An answer to a test of the claims agrees with these keys being claimed beforehand. -/
def Answer.Agrees (keys : List String) : Answer → Prop
  | ⟨.enter key, r⟩ => r = .ok (!keys.contains key)
  | _ => True

/-- The same move, made by the task with another number. -/
def Move.renamed (id : TaskId) : Move → Move
  | .start job => .start job
  | .go _ => .go id
  | .reply _ replies => .reply id replies

/-- A move of one task that is made by another. -/
theorem Move.IsOf.renamed {m : Move} {c : TaskId} (h : m.IsOf c) (id : TaskId) :
    (m.renamed id).IsOf id := by
  cases m with
  | start job => exact h.elim
  | go task => rfl
  | reply task replies => rfl

namespace Interleaving

variable {s : Setup} {x y : Interleaving} {a : TaskId} {kin : List TaskId} {keys : List String}

/-- All that has happened happened to tasks that take part. -/
theorem Reachable.task_lt (h : Reachable s x) {m : Moment} (hm : m ∈ x.moments) :
    m.task < x.parties.length := by
  have hparty : ∃ p, x.parties[m.task]? = some p := by
    cases m with
    | asked id op => exact h.exists_of_asked hm
    | answered id b => exact h.exists_party (List.ne_nil_of_mem (mem_dialogue.2 hm))
  obtain ⟨p, hp⟩ := hparty
  exact (List.getElem?_eq_some_iff.1 hp).1

/-- A task that was not there before is ready to do its job, and attributed to itself or as the
task that started it. -/
def Newcomers (id : TaskId) (x y : Interleaving) : Prop :=
  ∀ (i : Nat) (q : Party), x.parties.length ≤ i → y.parties[i]? = some q →
    q.state = .ready (q.job.program x.setup) ∧ (q.origin = i ∨ q.origin = x.originOf id)

theorem newcomers_of_length {id : TaskId} (h : y.parties.length ≤ x.parties.length) :
    Newcomers id x y := by
  intro i q hi hq
  have hlt := (List.getElem?_eq_some_iff.1 hq).1
  omega

/-- An answer on the spot adds one task at most, and changes neither the setup nor who is attributed
to whom. -/
theorem promptly_newcomers {id : Nat} {op : Ask} {reply : Except Failure op.Reply}
    (hid : id < x.parties.length) (h : x.promptly id op = some (reply, y)) :
    Newcomers id x y ∧ y.setup = x.setup ∧ y.originOf id = x.originOf id := by
  cases op with
  | emit e =>
    obtain ⟨-, rfl⟩ := Prod.mk.inj (Option.some.inj h)
    exact ⟨newcomers_of_length (Nat.le_refl _), rfl, rfl⟩
  | enter key =>
    simp only [promptly] at h
    split at h
    · obtain ⟨-, rfl⟩ := Prod.mk.inj (Option.some.inj h)
      exact ⟨newcomers_of_length (Nat.le_refl _), rfl, rfl⟩
    · obtain ⟨-, rfl⟩ := Prod.mk.inj (Option.some.inj h)
      exact ⟨newcomers_of_length (Nat.le_refl _), rfl, rfl⟩
  | leave key =>
    obtain ⟨-, rfl⟩ := Prod.mk.inj (Option.some.inj h)
    exact ⟨newcomers_of_length (Nat.le_refl _), rfl, rfl⟩
  | spawn name job =>
    obtain ⟨-, rfl⟩ := Prod.mk.inj (Option.some.inj h)
    refine ⟨fun i q hi hq => ?_, rfl, originOf_add_of_lt x job _ hid⟩
    rcases parties_add_cases x hq with hold | ⟨rfl, rfl⟩
    · exact absurd (List.getElem?_eq_some_iff.1 hold).1 (Nat.not_lt.2 hi)
    · refine ⟨rfl, ?_⟩
      dsimp only
      split
      · exact Or.inl rfl
      · exact Or.inr rfl
  | _ => cases h

/-- What is added as a task goes on are newcomers. -/
theorem proceed_newcomers (id : Nat) (p : Program Job.Result) {x : Interleaving}
    (hid : id < x.parties.length) : Newcomers id x (x.proceed id p) := by
  induction p generalizing x with
  | done r =>
    refine newcomers_of_length ?_
    rw [proceed, length_parties_setState]
  | ask op next ih =>
    rw [proceed]
    split
    · next reply y hy =>
      obtain ⟨hadded, hsetup, horigin⟩ := promptly_newcomers hid hy
      obtain ⟨-, hlength, -⟩ := promptly_eq_some hy
      intro i q hi hq
      have hlater := ih reply (x := y.answer id ⟨op, reply⟩ (next reply))
        (by rw [length_parties_answer]; exact Nat.lt_of_lt_of_le hid hlength)
      rcases Nat.lt_or_ge i y.parties.length with hlt | hge
      · -- It was added by this answer, and what comes later leaves it as it is.
        refine hadded i q hi ?_
        have hne : id ≠ i := Nat.ne_of_lt (Nat.lt_of_lt_of_le hid hi)
        have hsame := (proceed_of_ne hne (next reply) (y.answer id ⟨op, reply⟩ (next reply))).2
          (by rw [length_parties_answer]; exact hlt)
        rw [hsame, parties_answer, if_neg hne] at hq
        exact hq
      · have hnew := hlater i q (by rw [length_parties_answer]; exact hge) hq
        rwa [setup_answer, hsetup, originOf_answer, horigin] at hnew
    · refine newcomers_of_length ?_
      rw [parties_note, length_parties_setState]

/-- A move starts a task, changes nothing, or lets one of the tasks go on. -/
theorem move_cases (x : Interleaving) (m : Move) :
    (∃ job, m = .start job) ∨ x.move m = x ∨
      ∃ id : Nat, m.IsOf id ∧ id < x.parties.length ∧ Newcomers id x (x.move m) := by
  cases m with
  | start job => exact Or.inl ⟨job, rfl⟩
  | go id =>
    by_cases hready : ∃ p, x.state? id = some (.ready p)
    · obtain ⟨p, hp⟩ := hready
      have hlt := lt_length_of_state? hp
      refine Or.inr (Or.inr ⟨id, rfl, hlt, ?_⟩)
      rw [move_go hp]
      exact proceed_newcomers id p hlt
    · exact Or.inr (Or.inl (move_go_of_not_ready fun p hp => hready ⟨p, hp⟩))
  | reply id replies =>
    by_cases hblocked : ∃ op next, x.state? id = some (.blocked op next)
    · obtain ⟨op, next, hop⟩ := hblocked
      refine Or.inr (Or.inr ⟨id, rfl, lt_length_of_state? hop, ?_⟩)
      rw [move_reply_of_blocked hop]
      exact newcomers_of_length (Nat.le_of_eq (length_parties_answer ..))
    · refine Or.inr (Or.inl ?_)
      exact move_reply_of_not_blocked (fun op next hop => hblocked ⟨op, next, hop⟩) _

/-- The tasks that are attributed to an activation `a`, in the order in which they were started, and
another interleaving in which there are only these, numbered from zero. -/
structure Echo (a : TaskId) (kin : List TaskId) (x y : Interleaving) : Prop where
  /-- Activations have the same in common. -/
  setup : y.setup = x.setup
  /-- The activation comes first. -/
  first : kin[0]? = some a
  /-- No task is named twice. -/
  nodup : kin.Nodup
  /-- The tasks are those that are attributed to the activation. -/
  mem : ∀ c, c ∈ kin ↔ ∃ p : Party, x.parties[c]? = some p ∧ p.origin = a
  /-- No other tasks take part in the echo. -/
  length : y.parties.length = kin.length
  /-- They do the same jobs and stand at the same states. -/
  party : ∀ (i : Nat) (c : TaskId) (p : Party), kin[i]? = some c → x.parties[c]? = some p →
    y.parties[i]? = some { p with origin := 0 }
  /-- They have asked the same and were answered the same, in the same order. -/
  moments : List.Forall₂ (Moment.Echo kin) (x.moments.filter fun m => m.task ∈ kin) y.moments
  /-- None of them looks at the numbers of tasks. -/
  reserved : ∀ (c : TaskId) (p : Party), x.parties[c]? = some p → p.origin = a →
    p.job.isReserved = true

namespace Echo

/-- A task that is attributed to the activation takes part. -/
theorem exists_party (h : x.Echo a kin y) {i : Nat} {c : TaskId} (hi : kin[i]? = some c) :
    ∃ p : Party, x.parties[c]? = some p ∧ p.origin = a ∧
      y.parties[i]? = some { p with origin := 0 } := by
  obtain ⟨p, hp, horigin⟩ := (h.mem c).1 (List.mem_of_getElem? hi)
  exact ⟨p, hp, horigin, h.party i c p hi hp⟩

/-- A task stands where its echo stands. -/
theorem state? (h : x.Echo a kin y) {i : Nat} {c : TaskId} (hi : kin[i]? = some c) :
    y.state? i = x.state? c := by
  obtain ⟨p, hp, -, hecho⟩ := h.exists_party hi
  rw [Interleaving.state?, Interleaving.state?, hecho, hp]
  rfl

/-- Different tasks have different places. -/
theorem index_inj (h : x.Echo a kin y) {i j : Nat} {c : TaskId} (hi : kin[i]? = some c)
    (hj : kin[j]? = some c) : i = j :=
  (List.getElem?_inj (List.getElem?_eq_some_iff.1 hi).1 h.nodup).1 (hi.trans hj.symm)

/-- The claims play no part in the echo. -/
theorem setInFlight (h : x.Echo a kin y) (keys keys' : List String) :
    (x.setInFlight keys).Echo a kin (y.setInFlight keys') :=
  ⟨h.setup, h.first, h.nodup, h.mem, h.length, h.party, h.moments, h.reserved⟩

/-- A task and its echo change their states in the same way. -/
theorem setState (h : x.Echo a kin y) {i : Nat} {c : TaskId} (hi : kin[i]? = some c)
    (state : Task.State) : (x.setState c state).Echo a kin (y.setState i state) := by
  -- Who is attributed to whom, and for which job, does not depend on the state.
  have hkin : ∀ (d : TaskId) (o : TaskId) (j : Job), (∃ p : Party,
      (x.setState c state).parties[d]? = some p ∧ p.origin = o ∧ p.job = j) ↔
        ∃ p : Party, x.parties[d]? = some p ∧ p.origin = o ∧ p.job = j := by
    intro d o j
    rw [parties_setState]
    split <;> simp
  exact {
    setup := h.setup
    first := h.first
    nodup := h.nodup
    mem := fun d => by
      rw [h.mem d]
      constructor
      · rintro ⟨p, hp, horigin⟩
        obtain ⟨q, hq, hqorigin, -⟩ := (hkin d a p.job).2 ⟨p, hp, horigin, rfl⟩
        exact ⟨q, hq, hqorigin⟩
      · rintro ⟨p, hp, horigin⟩
        obtain ⟨q, hq, hqorigin, -⟩ := (hkin d a p.job).1 ⟨p, hp, horigin, rfl⟩
        exact ⟨q, hq, hqorigin⟩
    length := by rw [length_parties_setState, h.length]
    party := fun j d p hj hp => by
      rw [parties_setState] at hp ⊢
      by_cases hd : c = d
      · subst hd
        obtain rfl := h.index_inj hi hj
        rw [if_pos rfl] at hp ⊢
        obtain ⟨q, hq, rfl⟩ := Option.map_eq_some_iff.1 hp
        rw [h.party i c q hi hq]
        rfl
      · have hij : i ≠ j := by
          rintro rfl
          exact hd (Option.some.inj (hi.symm.trans hj))
        rw [if_neg hd] at hp
        rw [if_neg hij]
        exact h.party j d p hj hp
    moments := h.moments
    reserved := fun d p hp horigin => by
      obtain ⟨q, hq, hqorigin, hqjob⟩ := (hkin d a p.job).1 ⟨p, hp, horigin, rfl⟩
      rw [← hqjob]
      exact h.reserved d q hq hqorigin }

/-- Something happens to a task and its echo. -/
theorem note (h : x.Echo a kin y) {m m' : Moment} (hm : m.Echo kin m') :
    (x.note m).Echo a kin (y.note m') := by
  refine ⟨h.setup, h.first, h.nodup, h.mem, h.length, h.party, ?_, h.reserved⟩
  have htask : m.task ∈ kin := by
    cases hm with
    | asked hi op => exact List.mem_of_getElem? hi
    | answered hi hr => exact List.mem_of_getElem? hi
  rw [moments_note, moments_note, List.filter_append, List.filter_singleton]
  simp only [htask, decide_true]
  exact List.rel_append h.moments (.cons hm .nil)

/-- A task and its echo start a task. -/
theorem add (h : x.Echo a kin y) (hx : Reachable s x) {job : Job}
    (hjob : job.isActivation = false) (hreserved : job.isReserved = true) :
    (x.add job a).Echo a (kin ++ [x.parties.length]) (y.add job 0) := by
  have hnew : x.parties.length ∉ kin := by
    intro hmem
    obtain ⟨p, hp, -⟩ := (h.mem _).1 hmem
    exact absurd (List.getElem?_eq_some_iff.1 hp).1 (Nat.lt_irrefl _)
  have hself : (x.add job a).parties[x.parties.length]? =
      some ⟨job, a, .ready (job.program x.setup)⟩ := by
    rw [parties_add_self, hjob]
    rfl
  exact {
    setup := h.setup
    first := by
      rw [List.getElem?_append_left (List.getElem?_eq_some_iff.1 h.first).1, h.first]
    nodup := by
      refine List.nodup_append.2 ⟨h.nodup, by simp, ?_⟩
      rintro c hc c' hc' rfl
      rw [List.mem_singleton.1 hc'] at hc
      exact hnew hc
    mem := fun c => by
      rw [List.mem_append, List.mem_singleton, h.mem c]
      constructor
      · rintro (⟨p, hp, horigin⟩ | rfl)
        · refine ⟨p, ?_, horigin⟩
          rw [parties_add_of_lt x (List.getElem?_eq_some_iff.1 hp).1, hp]
        · exact ⟨_, hself, rfl⟩
      · rintro ⟨p, hp, horigin⟩
        rcases parties_add_cases x hp with hold | ⟨hc, -⟩
        · exact Or.inl ⟨p, hold, horigin⟩
        · exact Or.inr hc
    length := by
      rw [length_parties_add, List.length_append, h.length]
      rfl
    party := fun i c p hi hp => by
      rcases Nat.lt_or_ge i kin.length with hlt | hge
      · rw [List.getElem?_append_left hlt] at hi
        obtain ⟨q, hq, -, hecho⟩ := h.exists_party hi
        rw [parties_add_of_lt x (List.getElem?_eq_some_iff.1 hq).1, hq, Option.some.injEq] at hp
        rw [parties_add_of_lt y (by rw [h.length]; exact hlt), hecho, hp]
      · -- It is the new task.
        obtain ⟨hile, hci⟩ := List.getElem?_eq_some_iff.1 hi
        rw [List.length_append, List.length_singleton] at hile
        obtain rfl : i = kin.length := by omega
        obtain rfl : x.parties.length = c := by simpa using hci
        rw [hself, Option.some.injEq] at hp
        rw [← h.length, parties_add_self, hjob, ← hp, h.setup]
        rfl
    moments := by
      -- Nothing has happened to the new task so far.
      have hold : (x.moments.filter fun m => m.task ∈ kin ++ [x.parties.length]) =
          x.moments.filter fun m => m.task ∈ kin := by
        refine List.filter_congr fun m hm => ?_
        have hlt := hx.task_lt hm
        have hne : m.task ≠ x.parties.length := Nat.ne_of_lt hlt
        simp [hne]
      rw [moments_add, moments_add, hold]
      exact h.moments.imp fun _ _ hm => hm.append _
    reserved := fun c p hp horigin => by
      rcases parties_add_cases x hp with hold | ⟨-, rfl⟩
      · exact h.reserved c p hold horigin
      · exact hreserved }

/-- What happens to other tasks leaves the echo as it is. -/
theorem foreign (h : x.Echo a kin y) {x' : Interleaving} (hsetup : x'.setup = x.setup)
    (hparty : ∀ (c : TaskId) (p : Party), p.origin = a →
      (x'.parties[c]? = some p ↔ x.parties[c]? = some p))
    (hmoments : (x'.moments.filter fun m => m.task ∈ kin) =
      x.moments.filter fun m => m.task ∈ kin) : x'.Echo a kin y where
  setup := h.setup.trans hsetup.symm
  first := h.first
  nodup := h.nodup
  mem c := by
    rw [h.mem c]
    exact exists_congr fun p => and_congr_left fun horigin => (hparty c p horigin).symm
  length := h.length
  party i c p hi hp := by
    obtain ⟨q, hq, horigin, hecho⟩ := h.exists_party hi
    obtain rfl := Option.some.inj (((hparty c q horigin).2 hq).symm.trans hp)
    exact hecho
  moments := by
    rw [hmoments]
    exact h.moments
  reserved c p hp horigin := h.reserved c p ((hparty c p horigin).1 hp) horigin

/-- A task and its echo are answered. -/
theorem answer (h : x.Echo a kin y) {i : Nat} {c : TaskId} (hi : kin[i]? = some c) {op : Ask}
    {r r' : Except Failure op.Reply} (hr : op.Renumbered r r') (p : Program Job.Result) :
    (x.answer c ⟨op, r⟩ p).Echo a kin (y.answer i ⟨op, r'⟩ p) :=
  (h.setState hi _).note (.answered hi hr)

/-- Only the activation itself asks about claims. -/
theorem eq_of_isGuard (h : x.Echo a kin y) (hx : Reachable s x) {i : Nat} {c : TaskId}
    (hi : kin[i]? = some c) {op : Ask} {next : Except Failure op.Reply → Program Job.Result}
    (hc : x.state? c = some (.ready (.ask op next))) (hop : op.isGuard = true) :
    c = a ∧ ∃ options, Activation.GuardedAsk s options (x.dialogue a) op := by
  obtain ⟨p, hp, horigin, -⟩ := h.exists_party hi
  obtain ⟨q, hq, hstate⟩ := state?_eq_some.1 hc
  obtain rfl := Option.some.inj (hp.symm.trans hq)
  obtain ⟨-, hrest⟩ := hx.follows (Job.program_guarded s) c p hp
  rw [hstate, Task.State.residual, ensures_ask, Job.GuardedAsk] at hrest
  cases hjob : p.job.activation? with
  | none =>
    rw [hjob] at hrest
    exact absurd (hrest.1.symm.trans hop) (by decide)
  | some options =>
    have hself := hx.kinship.originOf_activation hp (Job.isActivation_of_activation? hjob)
    rw [originOf, hp] at hself
    obtain rfl : a = c := horigin.symm.trans hself
    rw [hjob] at hrest
    exact ⟨rfl, options, hrest.1⟩

/-- What is left of the program of a task does not depend on the numbers of tasks. -/
theorem reserved_residual (h : x.Echo a kin y) (hx : Reachable s x) {i : Nat} {c : TaskId}
    (hi : kin[i]? = some c) {p : Program Job.Result} (hc : x.state? c = some (.ready p)) :
    p.Reserved s.caseRule := by
  obtain ⟨q, hq, horigin, -⟩ := h.exists_party hi
  obtain ⟨q', hq', hstate⟩ := state?_eq_some.1 hc
  obtain rfl := Option.some.inj (hq.symm.trans hq')
  have hreserved := Job.program_reserved s (h.reserved c q hq horigin)
  have hled := hx.led c q hq
  rw [hstate] at hled
  exact ⟨hled.indifferent hreserved.indifferent, hled.residual_only hreserved.modest⟩

/-- A task and its echo are answered alike on the spot. -/
theorem promptly (h : x.Echo a kin y) (hx : Reachable s x) {i : Nat} {c : TaskId}
    (hi : kin[i]? = some c) {op : Ask} {next : Except Failure op.Reply → Program Job.Result}
    (hc : x.state? c = some (.ready (.ask op next)))
    (hflight : y.inFlight = (x.dialogue a).claimed keys) {reply : Except Failure op.Reply}
    {x' : Interleaving} (hprompt : x.promptly c op = some (reply, x'))
    (hagrees : c = a → Answer.Agrees keys ⟨op, reply⟩) :
    ∃ kin' reply' y', y.promptly i op = some (reply', y') ∧ next reply' = next reply ∧
      kin'[i]? = some c ∧ x'.Echo a kin' y' ∧ op.Renumbered reply reply' ∧
      y'.inFlight = if c = a then Answer.claimed y.inFlight ⟨op, reply⟩ else y.inFlight := by
  cases op with
  | emit e =>
    obtain ⟨rfl, rfl⟩ := Prod.mk.inj (Option.some.inj hprompt)
    exact ⟨kin, _, _, rfl, rfl, hi, h, rfl, (ite_self _).symm⟩
  | enter key =>
    obtain ⟨rfl, options, houtside, -⟩ := h.eq_of_isGuard hx hi hc rfl
    -- Nothing was claimed yet by the activation, so the echo has what it has had from the start.
    rw [Dialogue.claimed_of_not_isGuard _ houtside.not_isGuard] at hflight
    obtain rfl : reply = .ok (!keys.contains key) := hagrees rfl
    have hsame : ∃ flight, x' = x.setInFlight flight := by
      simp only [Interleaving.promptly] at hprompt
      split at hprompt
      · exact ⟨_, (Prod.mk.inj (Option.some.inj hprompt)).2.symm⟩
      · exact ⟨_, (Prod.mk.inj (Option.some.inj hprompt)).2.symm⟩
    obtain ⟨flight, rfl⟩ := hsame
    cases hkey : keys.contains key with
    | true =>
      refine ⟨kin, .ok false, y, ?_, rfl, hi, h.setInFlight flight y.inFlight, rfl, ?_⟩
      · rw [Interleaving.promptly, hflight, if_pos hkey]
      · rw [if_pos rfl]
        rfl
    | false =>
      refine ⟨kin, .ok true, y.setInFlight (key :: y.inFlight), ?_, rfl, hi, h.setInFlight _ _, rfl,
        ?_⟩
      · rw [Interleaving.promptly, hflight, if_neg (by rw [hkey]; decide)]
      · rw [if_pos rfl]
        rfl
  | leave key =>
    obtain ⟨rfl, -⟩ := h.eq_of_isGuard hx hi hc rfl
    obtain ⟨rfl, rfl⟩ := Prod.mk.inj (Option.some.inj hprompt)
    refine ⟨kin, _, _, rfl, rfl, hi, h.setInFlight _ _, rfl, ?_⟩
    rw [if_pos rfl]
    rfl
  | spawn name job =>
    obtain ⟨rfl, rfl⟩ := Prod.mk.inj (Option.some.inj hprompt)
    have hreserved := h.reserved_residual hx hi hc
    obtain ⟨hjob, hjobReserved⟩ := hreserved.modest.1 name job rfl
    obtain ⟨p, hp, horigin, hecho⟩ := h.exists_party hi
    have hx' : x.originOf c = a := by rw [originOf, hp]; exact horigin
    have hy' : y.originOf i = 0 := by rw [originOf, hecho]; rfl
    refine ⟨kin ++ [x.parties.length], .ok y.parties.length, y.add job 0, ?_, ?_, ?_, ?_, ?_, ?_⟩
    · rw [Interleaving.promptly, hy']
    · -- The program does not look at the number.
      exact hreserved.indifferent.1 _ _ (Or.inr (Or.inr ⟨_, _, rfl, rfl⟩))
    · rw [List.getElem?_append_left (List.getElem?_eq_some_iff.1 hi).1, hi]
    · rw [hx']
      exact h.add hx hjob hjobReserved
    · exact Or.inr ⟨_, _, rfl, rfl⟩
    · exact (ite_self _).symm
  | _ => cases hprompt

/-- A task and its echo go on alike. -/
theorem proceed (h : x.Echo a kin y) (hx : Reachable s x) {i : Nat} {c : TaskId}
    (hi : kin[i]? = some c) {p : Program Job.Result} (hc : x.state? c = some (.ready p))
    (hflight : y.inFlight = (x.dialogue a).claimed keys)
    (hagrees : ∀ b ∈ (x.proceed c p).dialogue a, b.Agrees keys) :
    ∃ kin', (x.proceed c p).Echo a kin' (y.proceed i p) ∧
      (y.proceed i p).inFlight = ((x.proceed c p).dialogue a).claimed keys := by
  induction p generalizing x y kin with
  | done r => exact ⟨kin, h.setState hi _, hflight⟩
  | ask op next ih =>
    cases hprompt : x.promptly c op with
    | none =>
      rw [Interleaving.proceed, Interleaving.proceed, hprompt,
        promptly_eq_none.2 (promptly_eq_none.1 hprompt)]
      refine ⟨kin, (h.setState hi _).note (.asked hi op), ?_⟩
      rw [dialogue_note_asked]
      exact hflight
    | some answered =>
      obtain ⟨reply, x'⟩ := answered
      rw [Interleaving.proceed, hprompt] at hagrees ⊢
      dsimp only at hagrees ⊢
      obtain ⟨hmoments, hlength, -⟩ := promptly_eq_some hprompt
      -- The answer on the spot is in the dialogue after all moves, of which agreement is assumed.
      have hnow : c = a → Answer.Agrees keys ⟨op, reply⟩ := by
        rintro rfl
        obtain ⟨⟨u, hu, -⟩, -⟩ := proceed_answers c (next reply)
          (x'.answer c ⟨op, reply⟩ (next reply))
        refine hagrees _ ?_
        rw [hu, dialogue_answer, if_pos rfl]
        simp
      obtain ⟨kin', reply', y', hecho, hnext, hi', h', hreply, hclaims⟩ :=
        h.promptly hx hi hc hflight hprompt hnow
      rw [Interleaving.proceed, hecho]
      dsimp only
      rw [hnext]
      refine ih reply (h'.answer hi' hreply _) (hx.tail (promptly_step hc hprompt)) hi'
        (state?_answer (Nat.lt_of_lt_of_le (lt_length_of_state? hc) hlength) _ _) ?_ hagrees
      have hdialogue : x'.dialogue a = x.dialogue a := by rw [dialogue, hmoments]; rfl
      rw [inFlight_answer, hclaims, hflight, dialogue_answer, hdialogue, Dialogue.claimed_append]
      split
      · rfl
      · rfl

/-- A task that is attributed to the activation is one of those that are echoed. -/
theorem mem_of_originOf (h : x.Echo a kin y) {c : Nat} (hlt : c < x.parties.length)
    (hc : x.originOf c = a) : c ∈ kin := by
  have hp := List.getElem?_eq_getElem hlt
  rw [originOf, hp] at hc
  exact (h.mem c).2 ⟨_, hp, hc⟩

/-- A move of one of the tasks can be made by its echo. -/
theorem move (h : x.Echo a kin y) (hx : Reachable s x) {m : Move} {i : Nat} {c : TaskId}
    (hi : kin[i]? = some c) (hm : m.IsOf c) (hflight : y.inFlight = (x.dialogue a).claimed keys)
    (hagrees : ∀ b ∈ (x.move m).dialogue a, b.Agrees keys) :
    ∃ kin', (x.move m).Echo a kin' (y.move (m.renamed i)) ∧
      (y.move (m.renamed i)).inFlight = ((x.move m).dialogue a).claimed keys := by
  cases m with
  | start job => exact hm.elim
  | go id =>
    obtain rfl : id = c := hm
    by_cases hready : ∃ p, x.state? id = some (.ready p)
    · obtain ⟨p, hp⟩ := hready
      rw [move_go hp] at hagrees ⊢
      rw [Move.renamed, move_go ((h.state? hi).trans hp)]
      exact h.proceed hx hi hp hflight hagrees
    · have hnot : ∀ p, x.state? id ≠ some (.ready p) := fun p hp => hready ⟨p, hp⟩
      rw [move_go_of_not_ready hnot, Move.renamed,
        move_go_of_not_ready fun p => by rw [h.state? hi]; exact hnot p]
      exact ⟨kin, h, hflight⟩
  | reply id replies =>
    obtain rfl : id = c := hm
    by_cases hblocked : ∃ op next, x.state? id = some (.blocked op next)
    · obtain ⟨op, next, hop⟩ := hblocked
      rw [move_reply_of_blocked hop, Move.renamed,
        move_reply_of_blocked ((h.state? hi).trans hop)]
      refine ⟨kin, h.answer hi (Ask.Renumbered.refl op _) _, ?_⟩
      -- Tasks do not pause for claims.
      have hguard := Ask.isGuard_of_not_isPrompt (hx.orderly.pauses id op next hop)
      rw [inFlight_answer, hflight, dialogue_answer, Dialogue.claimed_append]
      refine (Dialogue.claimed_of_not_isGuard _ fun b hb => ?_).symm
      split at hb
      · rw [List.mem_singleton.1 hb]
        exact hguard
      · cases hb
    · have hnot : ∀ op next, x.state? id ≠ some (.blocked op next) :=
        fun op next hop => hblocked ⟨op, next, hop⟩
      rw [move_reply_of_not_blocked hnot, Move.renamed,
        move_reply_of_not_blocked fun op next => by rw [h.state? hi]; exact hnot op next]
      exact ⟨kin, h, hflight⟩

/-- Whoever is started by the host or by another task is not attributed to the activation. -/
theorem foreign_of_solo (h : x.Echo a kin y) (ha : a < x.parties.length) {x' : Interleaving}
    {id : Nat} (hid : id ∉ kin) (hsolo : Solo id x x') (hnew : Newcomers id x x')
    (hlt : id < x.parties.length) (hsetup : x'.setup = x.setup)
    (hkin : ∀ i k, x.kin? i = some k → x'.kin? i = some k) : x'.Echo a kin y := by
  have hne : x.originOf id ≠ a := fun horigin => hid (h.mem_of_originOf hlt horigin)
  refine h.foreign hsetup (fun c p horigin => ?_) ?_
  · -- The only task that changes is attributed to another activation.
    have hcid : ∀ z : Interleaving, (∀ k, x.kin? id = some k → z.kin? id = some k) →
        z.parties[c]? = some p → c ≠ id := by
      rintro z hz hp rfl
      have hx := List.getElem?_eq_getElem hlt
      have hk := (kin?_of_party hp).symm.trans (hz _ (kin?_of_party hx))
      refine hne ?_
      rw [originOf, hx]
      exact (Prod.mk.inj (Option.some.inj hk)).2.symm.trans horigin
    constructor
    · intro hp
      have hother := hcid x' (fun k => hkin id k) hp
      rcases Nat.lt_or_ge c x.parties.length with hc | hc
      · rwa [hsolo.others c hother hc] at hp
      · obtain ⟨-, hself | hsame⟩ := hnew c p hc hp
        · obtain rfl : a = c := horigin.symm.trans hself
          exact absurd ha (Nat.not_lt.2 hc)
        · exact absurd (hsame.symm.trans horigin) hne
    · intro hp
      rw [hsolo.others c (hcid x (fun _ hk => hk) hp) (List.getElem?_eq_some_iff.1 hp).1, hp]
  · obtain ⟨new, hmoments, htask⟩ := hsolo.moments
    rw [hmoments, List.filter_append]
    have hnone : (new.filter fun m => m.task ∈ kin) = [] := by
      refine List.filter_eq_nil_iff.2 fun m hm => ?_
      rw [htask m hm]
      simpa using hid
    rw [hnone, List.append_nil]

/-- A move that is not made by one of the tasks leaves the echo as it is. -/
theorem move_foreign (h : x.Echo a kin y) (hx : Reachable s x) (ha : a < x.parties.length)
    {m : Move} (hm : ∀ c ∈ kin, ¬m.IsOf c) :
    (x.move m).Echo a kin y ∧ (x.move m).dialogue a = x.dialogue a := by
  rcases move_cases x m with ⟨job, rfl⟩ | hsame | ⟨id, hid, hlt, hnew⟩
  · refine ⟨h.foreign rfl (fun c p horigin => ⟨fun hp => ?_, fun hp => ?_⟩) rfl, rfl⟩
    · rcases parties_add_cases x hp with hold | ⟨rfl, rfl⟩
      · exact hold
      · dsimp only at horigin
        rw [ite_self] at horigin
        exact absurd ha (Nat.not_lt.2 (Nat.le_of_eq horigin))
    · rw [Interleaving.move, parties_add_of_lt x (List.getElem?_eq_some_iff.1 hp).1, hp]
  · rw [hsame]
    exact ⟨h, rfl⟩
  · -- Another task goes on or is answered, so that the activation is not concerned.
    have hx' : Reachable s (x.move m) := hx.trans (move_steps x m)
    have hsolo := move_solo hid x
    refine ⟨h.foreign_of_solo ha (fun hmem => hm id hmem hid) hsolo hnew hlt
      (hx'.orderly.setup.trans hx.orderly.setup.symm) fun i k hk => kin?_foldl_move [m] hk, ?_⟩
    refine hsolo.dialogue ?_
    rintro rfl
    exact hm a (List.mem_of_getElem? h.first) hid

end Echo

/-- A task that was just started has neither asked nor been answered anything. -/
theorem Reachable.fresh_of_move (h : Reachable s x) {m : Move} {p : Party} {i : Nat}
    (hi : x.parties.length ≤ i) (hp : (x.move m).parties[i]? = some p) :
    p.state = .ready (p.job.program s) ∧ ∀ m' ∈ (x.move m).moments, m'.task ≠ i := by
  have hold : ∀ m' ∈ x.moments, m'.task ≠ i := fun m' hm' =>
    Nat.ne_of_lt (Nat.lt_of_lt_of_le (h.task_lt hm') hi)
  rcases move_cases x m with ⟨job, rfl⟩ | hsame | ⟨id, hid, hlt, hnew⟩
  · rcases parties_add_cases x hp with hold' | ⟨-, rfl⟩
    · exact absurd (List.getElem?_eq_some_iff.1 hold').1 (Nat.not_lt.2 hi)
    · rw [h.orderly.setup]
      exact ⟨rfl, hold⟩
  · rw [hsame] at hp
    exact absurd (List.getElem?_eq_some_iff.1 hp).1 (Nat.not_lt.2 hi)
  · obtain ⟨hstate, -⟩ := hnew i p hi hp
    rw [h.orderly.setup] at hstate
    refine ⟨hstate, fun m' hm' => ?_⟩
    obtain ⟨new, hmoments, htask⟩ := (move_solo hid x).moments
    rw [hmoments] at hm'
    rcases List.mem_append.1 hm' with hm' | hm'
    · exact hold m' hm'
    · rw [htask m' hm']
      exact Nat.ne_of_lt (Nat.lt_of_lt_of_le hlt hi)

/-- A job that is done alone, where some keys are claimed already. -/
def alone (s : Setup) (keys : List String) (job : Job) : Interleaving :=
  ({ setup := s, inFlight := keys } : Interleaving).move (.start job)

/-- An activation that was just started is its own echo. -/
theorem Reachable.echo_of_fresh (h : Reachable s x) {p : Party} (hp : x.parties[a]? = some p)
    (hjob : p.job.isActivation = true) (hstate : p.state = .ready (p.job.program s))
    (hfresh : ∀ m ∈ x.moments, m.task ≠ a) (keys : List String) :
    x.Echo a [a] (alone s keys p.job) := by
  have hself := h.kinship.originOf_activation hp hjob
  rw [originOf, hp] at hself
  -- It has started no tasks yet, so that no others are attributed to it.
  have honly : ∀ (c : TaskId) (q : Party), x.parties[c]? = some q → q.origin = a → c = a := by
    intro c q hq horigin
    refine h.kinship.eq_of_originOf ?_ (show x.originOf c = a by rw [originOf, hq]; exact horigin)
    rw [spawns, List.eq_nil_iff_forall_not_mem.2 fun b hb => hfresh _ (mem_dialogue.1 hb) rfl]
    rfl
  refine ⟨h.orderly.setup.symm, rfl, List.nodup_singleton a, fun c => ?_, rfl,
    fun i c q hi hq => ?_, ?_, fun c q hq horigin => ?_⟩
  · rw [List.mem_singleton]
    constructor
    · rintro rfl
      exact ⟨p, hp, hself⟩
    · rintro ⟨q, hq, horigin⟩
      exact honly c q hq horigin
  · cases i with
    | zero =>
      obtain rfl : a = c := Option.some.inj hi
      obtain rfl := Option.some.inj (hp.symm.trans hq)
      refine (parties_add_self ({ setup := s, inFlight := keys } : Interleaving) p.job 0).trans ?_
      rw [hjob, hstate]
      rfl
    | succ i => cases hi
  · have hnone : (x.moments.filter fun m => m.task ∈ [a]) = [] := by
      refine List.filter_eq_nil_iff.2 fun m hm => ?_
      simpa using hfresh m hm
    rw [hnone]
    exact .nil
  · obtain rfl := honly c q hq horigin
    obtain rfl := Option.some.inj (hp.symm.trans hq)
    cases hcase : p.job with
    | activation options => rfl
    | resolution options => rfl
    | _ =>
      rw [hcase] at hjob
      cases hjob

/-- A move takes nothing back of what a task was answered. -/
theorem dialogue_move (x : Interleaving) (m : Move) (id : TaskId) :
    x.dialogue id <+: (x.move m).dialogue id := by
  rcases move_cases x m with ⟨job, rfl⟩ | hsame | ⟨i, hi, -, -⟩
  · exact List.prefix_refl _
  · exact hsame.symm ▸ List.prefix_refl _
  · obtain ⟨new, hmoments, -⟩ := (move_solo hi x).moments
    rw [dialogue, dialogue, hmoments, List.filterMap_append]
    exact List.prefix_append _ _

/-- Every activation has an echo: that of a lone activation where some keys are claimed already,
such that its test of the claims is answered the same. -/
theorem run_echo {moves : List Move} {p : Party} (hp : (run s moves).parties[a]? = some p)
    (hjob : p.job.isActivation = true)
    (hagrees : ∀ b ∈ (run s moves).dialogue a, b.Agrees keys) :
    ∃ (kin : List TaskId) (lone : List Move), (∀ m ∈ lone, ∃ id, m.IsOf id) ∧
      (run s moves).Echo a kin (lone.foldl move (alone s keys p.job)) ∧
      (lone.foldl move (alone s keys p.job)).inFlight =
        ((run s moves).dialogue a).claimed keys := by
  induction moves using List.reverseRecOn generalizing p with
  | nil => cases hp
  | append_singleton moves m ih =>
    have hx := run_reachable s moves
    rw [run_append] at hp hagrees ⊢
    generalize run s moves = x at hx ih hp hagrees ⊢
    rcases Nat.lt_or_ge a x.parties.length with hlt | hge
    · -- It was there before the move, with the same job.
      have hq := List.getElem?_eq_getElem hlt
      have hsame : x.parties[a].job = p.job :=
        job_eq_of_kin? (fun i k hk => kin?_foldl_move [m] hk) hp hq
      obtain ⟨kin, lone, hlone, hecho, hflight⟩ := ih hq (by rw [hsame]; exact hjob)
        fun b hb => hagrees b ((dialogue_move x m a).subset hb)
      rw [hsame] at hecho hflight
      -- A move of its kin is repeated by the lone activation; all others leave it alone.
      by_cases hkin : ∃ c ∈ kin, m.IsOf c
      · obtain ⟨c, hc, hm⟩ := hkin
        obtain ⟨i, hi⟩ := List.mem_iff_getElem?.1 hc
        obtain ⟨kin', hecho', hflight'⟩ := hecho.move hx hi hm hflight hagrees
        refine ⟨kin', lone ++ [m.renamed i], fun m' hm' => ?_, ?_, ?_⟩
        · rcases List.mem_append.1 hm' with hm' | hm'
          · exact hlone m' hm'
          · obtain rfl := List.mem_singleton.1 hm'
            exact ⟨i, hm.renamed i⟩
        · rw [List.foldl_append]
          exact hecho'
        · rw [List.foldl_append]
          exact hflight'
      · obtain ⟨hecho', hdialogue⟩ := hecho.move_foreign hx hlt fun c hc hm => hkin ⟨c, hc, hm⟩
        exact ⟨kin, lone, hlone, hecho', by rw [hflight, hdialogue]⟩
    · -- It was started by the move.
      obtain ⟨hstate, hfresh⟩ := hx.fresh_of_move hge hp
      refine ⟨[a], [], by simp, Reachable.echo_of_fresh (hx.trans (move_steps x m)) hp hjob hstate
        hfresh keys, ?_⟩
      rw [List.eq_nil_iff_forall_not_mem.2 fun b hb => hfresh _ (mem_dialogue.1 hb) rfl]
      rfl

end Interleaving

end IndexSync
