import IndexSync.Proofs.Activation.Course
import IndexSync.Proofs.Delay
import IndexSync.Proofs.Interleaving.Errands
import IndexSync.Proofs.Validation
import Mathlib.Data.List.Nodup

/-!
# The course of an activation among others

Whatever else goes on at the same time, the requests that are attributed to an activation are its
probes, then its requests for the project list, and then those of its errands.

* `Interleaving.Reachable.sent_eq` — an activation sends its own requests before its errands send
  theirs;
* `Interleaving.activation_course` — the shape of the requests of an activation, what each kind of
  request is preceded by, and what the result tells about them.
-/

namespace IndexSync

open Program

namespace Job

/-- When a task that is an activation asks what. -/
def CourseAsk (s : Setup) : Job → Dialogue → Ask → Prop
  | .activation _ => Activation.CourseAsk s
  | _ => fun _ _ => True

/-- How a task that is an activation ends. -/
def CourseEnd (s : Setup) : Job → Dialogue → Except Failure Job.Result → Prop
  | .activation options => fun t r =>
    ∃ ended, r = ended.map (fun result => .activation (some result)) ∧
      Activation.CourseEnd s options t ended ∧ Activation.Warmed s t ended
  | _ => fun _ _ => True

/-- Activations keep to their course. -/
theorem program_course (s : Setup) (job : Job) :
    (job.program s).Ensures (job.CourseAsk s) (job.CourseEnd s) [] := by
  cases job with
  | activation options =>
    rw [Job.program, ensures_bind]
    refine ((Activation.course_ensures s options).and (Activation.warmed_ensures s options)).mono
      (fun t op hop => hop.1) ?_
    rintro t (e | result) hr
    · exact ⟨.error e, rfl, hr⟩
    · exact ⟨.ok result, rfl, hr⟩
  | _ => exact (ensures_leads _ []).mono (fun _ _ _ => trivial) fun _ _ _ => trivial

end Job

/-- If what one function picks comes before what another picks, then what is picked by either is
picked by the one and then by the other. -/
theorem filterMap_eq_append_filterMap {α β : Type} {f g h : α → Option β} {l : List α}
    (hf : ∀ m, f m = (g m).or (h m))
    (horder : ∀ pre m post, l = pre ++ m :: post → g m ≠ none →
      h m = none ∧ ∀ m' ∈ pre, h m' = none) :
    l.filterMap f = l.filterMap g ++ l.filterMap h := by
  induction l using List.reverseRecOn with
  | nil => rfl
  | append_singleton l m ih =>
    have hl := ih fun pre m' post hsplit hm' =>
      horder pre m' (post ++ [m]) (by rw [hsplit]; simp) hm'
    rw [List.filterMap_append, List.filterMap_append, List.filterMap_append, hl]
    cases hg : g m with
    | none =>
      have hm : f m = h m := by rw [hf, hg, Option.none_or]
      simp [List.filterMap_cons, hm, hg]
    | some b =>
      have hm' : f m = some b := by rw [hf, hg, Option.some_or]
      obtain ⟨hm, hpre⟩ := horder l m [] rfl (by simp [hg])
      have hnone : l.filterMap h = [] := List.filterMap_eq_nil_iff.2 hpre
      simp [hm', hg, hm, hnone]

namespace Interleaving

variable {s : Setup} {x : Interleaving}

/-- The name of the request that a task has sent at a moment. -/
def sentBy? (id : TaskId) : Moment → Option String
  | .asked task op => if task = id then op.requestName? else none
  | .answered _ _ => none

/-- The name of the request that was sent at a moment by an errand of an activation. -/
def errandSentAt? (x : Interleaving) (id : TaskId) : Moment → Option String
  | .asked task op => if task ≠ id ∧ x.originOf task = id then op.requestName? else none
  | .answered _ _ => none

/-- An activation sends its own requests before its errands send theirs. -/
theorem Reachable.sent_eq (h : Reachable s x) {a : TaskId} {p : Party}
    (hp : x.parties[a]? = some p) {options : Option Options}
    (hjob : p.job.activation? = some options) :
    x.sent a = x.moments.filterMap (sentBy? a) ++ x.moments.filterMap (x.errandSentAt? a) := by
  have hself := h.kinship.originOf_activation hp (Job.isActivation_of_activation? hjob)
  refine filterMap_eq_append_filterMap (fun m => ?_) fun pre m post hsplit hm => ?_
  · cases m with
    | answered id answer => rfl
    | asked c op =>
      by_cases hc : c = a
      · simp [sentAt?, sentBy?, errandSentAt?, hc, hself]
      · simp [sentAt?, sentBy?, errandSentAt?, hc]
  · cases m with
    | answered id answer => exact absurd rfl hm
    | asked c op =>
      obtain ⟨rfl, -⟩ : c = a ∧ op.requestName? ≠ none := by simpa [sentBy?] using hm
      refine ⟨by simp [errandSentAt?], fun m' hm' => ?_⟩
      -- When the activation sent the request, it had not started any tasks.
      obtain ⟨y, next, hy, rfl, hready, hop, hkin⟩ := h.snapshot hsplit
      obtain ⟨q, hq, hstate⟩ := state?_eq_some.1 hready
      have hjob' : q.job.activation? = some options := by rw [job_eq_of_kin? hkin hp hq, hjob]
      obtain ⟨-, hrest⟩ := hy.follows (Job.program_guarded s) c q hq
      rw [hstate, Task.State.residual, ensures_ask, Job.GuardedAsk, hjob'] at hrest
      have hnone : y.spawns c = [] := hrest.1.spawned hop
      cases m' with
      | answered id answer => rfl
      | asked e op' =>
        rw [errandSentAt?, if_neg]
        rintro ⟨hne, horigin⟩
        obtain ⟨q', hq'⟩ := hy.exists_of_asked hm'
        have hsame := hkin e (q'.job, q'.origin) (by rw [kin?, hq']; rfl)
        refine hne (hy.kinship.eq_of_originOf hnone ?_)
        rw [originOf_eq, hsame] at horigin
        rw [originOf_eq, kin?, hq']
        exact horigin

/-- The requests that a task has sent are those among the questions it has paused at. -/
theorem filterMap_sentBy? (x : Interleaving) (a : TaskId) :
    x.moments.filterMap (sentBy? a) = (x.asked a).filterMap Ask.requestName? := by
  rw [asked, List.filterMap_filterMap]
  congr 1
  funext m
  cases m with
  | answered id answer => rfl
  | asked c op =>
    simp only [sentBy?, Moment.askedBy?]
    split <;> rfl

/-- Requests are not answered on the spot. -/
theorem requests_eq (t : Dialogue) : t.requests = t.pauses.filterMap Ask.requestName? := by
  induction t with
  | nil => rfl
  | cons b t ih =>
    rw [Dialogue.requests_cons, ih, ← List.singleton_append, Dialogue.pauses_append,
      List.filterMap_append]
    congr 1
    obtain ⟨op, reply⟩ := b
    cases op <;> rfl

/-- The requests that a task has sent itself are those it was answered and the one it awaits. -/
theorem Reachable.own_eq (h : Reachable s x) (a : TaskId) :
    x.moments.filterMap (sentBy? a) =
      (x.dialogue a).requests ++ (x.awaiting a).filterMap Ask.requestName? := by
  rw [filterMap_sentBy?, h.recorded a, List.filterMap_append, requests_eq]

/-- The requests that an activation has sent itself are probes and then requests for the list, in
numbers within the budgets. -/
theorem Reachable.own_shape (h : Reachable s x) {a : TaskId} {p : Party}
    (hp : x.parties[a]? = some p) {options : Option Options} (hjob : p.job = .activation options) :
    ∃ n l, n ≤ Activation.probes s ∧ l ≤ Activation.listings s ∧
      x.moments.filterMap (sentBy? a) =
        List.replicate n Poll.pingRequest ++ List.replicate l Registry.listRequest := by
  rcases List.eq_nil_or_concat (x.moments.filterMap (sentBy? a)) with hnil | ⟨own, name, hown⟩
  · exact ⟨0, 0, Nat.zero_le _, Nat.zero_le _, hnil⟩
  · -- Everything but the last request was answered when that request was sent.
    rw [List.concat_eq_append] at hown
    obtain ⟨l₁, l₂, hsplit, rfl, hlast⟩ := List.filterMap_eq_append_iff.1 hown
    obtain ⟨pre, m, post, rfl, hpre, hm, -⟩ := List.filterMap_eq_cons_iff.1 hlast
    cases m with
    | answered id answer => cases hm
    | asked c op =>
      rw [sentBy?, Option.ite_none_right_eq_some] at hm
      obtain ⟨rfl, hname⟩ := hm
      rw [← List.append_assoc] at hsplit
      have hask := h.asked_fits (Job.program_course s) hsplit hp
      rw [hjob] at hask
      obtain ⟨y, next, hy, hmoments, hready, -, -⟩ := h.snapshot hsplit
      have hbefore : l₁.filterMap (sentBy? c) = (dialogueAt (l₁ ++ pre) c).requests := by
        have hown := hy.own_eq c
        rw [awaiting_of_state? hready, hmoments, List.filterMap_append,
          List.filterMap_eq_nil_iff.2 hpre, List.append_nil, dialogue, hmoments] at hown
        rw [hown]
        simp [Task.State.pending, dialogueAt]
      rw [hown, hbefore]
      rcases hask.request name hname with ⟨rfl, n, hn, hrequests⟩ |
        ⟨rfl, -, n, l, -, hn, hl, hrequests⟩
      · refine ⟨n + 1, 0, hn, Nat.zero_le _, ?_⟩
        rw [hrequests, List.replicate_succ', List.replicate_zero, List.append_nil]
      · refine ⟨n, l + 1, hn, hl, ?_⟩
        rw [hrequests, List.replicate_succ', List.append_assoc]

/-- The errand of an activation that has sent a request at a moment. -/
def errandAt? (x : Interleaving) (id : TaskId) : Moment → Option TaskId
  | .asked task op =>
    if task ≠ id ∧ x.originOf task = id ∧ op.requestName?.isSome then some task else none
  | .answered _ _ => none

/-- The action of a task that has one done. -/
def actionOf (x : Interleaving) (id : TaskId) : Action :=
  ((x.kin? id).bind fun k => k.1.action?).getD .register

section Run

variable {moves : List Move} {a : TaskId} {p : Party} {options : Option Options}

/-- What is known of a task that is attributed to an activation and has asked something: it is one
of the errands, and that was its only question, the one that has its action done. -/
theorem run_errand_asked (hp : (run s moves).parties[a]? = some p)
    (hjob : p.job.activation? = some options) {c : TaskId} {op : Ask}
    (hm : .asked c op ∈ (run s moves).moments) (hne : c ≠ a)
    (hc : (run s moves).originOf c = a) :
    ∃ job action, (c, job) ∈ (run s moves).errands a ∧ job.action? = some action ∧
      (run s moves).actionOf c = action ∧ (run s moves).asked c = [op] ∧
      Dispatch.Executes s.crew action job.actionOptions op := by
  have hx := run_reachable s moves
  obtain ⟨q, hq⟩ := hx.exists_of_asked hm
  have hkin := kin?_of_originOf hq hc
  have hmem := run_mem_errands hp hjob hkin hne
  obtain ⟨action, haction, -⟩ := run_errand_action hp hjob hmem
  have hof : (run s moves).actionOf c = action := by
    rw [actionOf, hkin, Option.bind_some, haction]
    rfl
  obtain ⟨hone, hexec⟩ := hx.errand_of_asked hq haction (mem_asked.2 hm)
  exact ⟨q.job, action, hmem, haction, hof, hone, hexec⟩

/-- No task sends more requests for an activation than it asks questions. -/
theorem count_errandAt?_le (x : Interleaving) (a c : TaskId) (l : List Moment) :
    (l.filterMap (x.errandAt? a)).count c ≤ (l.filterMap (·.askedBy? c)).length := by
  induction l with
  | nil => exact Nat.le_refl 0
  | cons m l ih =>
    cases m with
    | answered id answer => exact ih
    | asked e op =>
      -- The moment is a question of the task that it is counted for, or it is not counted.
      have hpick : x.errandAt? a (.asked e op) = none ∨ x.errandAt? a (.asked e op) = some e := by
        rw [errandAt?]
        split
        · exact Or.inr rfl
        · exact Or.inl rfl
      rcases hpick with hnone | hsome
      · rw [List.filterMap_cons_none hnone]
        exact Nat.le_trans ih ((List.sublist_cons_self _ l).filterMap _).length_le
      · rw [List.filterMap_cons_some hsome]
        by_cases hec : e = c
        · subst hec
          have hasked : Moment.askedBy? e (.asked e op) = some op := if_pos rfl
          rw [List.count_cons_self, List.filterMap_cons_some hasked, List.length_cons]
          exact Nat.succ_le_succ ih
        · have hasked : Moment.askedBy? c (.asked e op) = none := if_neg hec
          rw [List.count_cons_of_ne hec, List.filterMap_cons_none hasked]
          exact ih

/-- What is known of an errand that has sent a request. -/
theorem run_mem_errandAt? (hp : (run s moves).parties[a]? = some p)
    (hjob : p.job.activation? = some options) {c : TaskId}
    (hc : c ∈ (run s moves).moments.filterMap ((run s moves).errandAt? a)) :
    ∃ job action, (c, job) ∈ (run s moves).errands a ∧ job.action? = some action ∧
      (run s moves).actionOf c = action ∧ ((run s moves).asked c).length ≤ 1 := by
  obtain ⟨m, hm, hpick⟩ := List.mem_filterMap.1 hc
  cases m with
  | answered id answer => cases hpick
  | asked e op =>
    rw [errandAt?, Option.ite_none_right_eq_some] at hpick
    obtain ⟨⟨hne, horigin, -⟩, hec⟩ := hpick
    obtain rfl := Option.some.inj hec
    obtain ⟨job, action, hmem, haction, hof, hone, -⟩ := run_errand_asked hp hjob hm hne horigin
    exact ⟨job, action, hmem, haction, hof, Nat.le_of_eq (congrArg List.length hone)⟩

/-- The requests of errands are those for their actions. -/
theorem run_filterMap_errandSentAt? (hp : (run s moves).parties[a]? = some p)
    (hjob : p.job.activation? = some options) :
    (run s moves).moments.filterMap ((run s moves).errandSentAt? a) =
      (((run s moves).moments.filterMap ((run s moves).errandAt? a)).map
        (run s moves).actionOf).map Action.name := by
  rw [List.map_map, List.map_filterMap]
  refine List.filterMap_congr fun m hm => ?_
  cases m with
  | answered id answer => rfl
  | asked c op =>
    rw [errandSentAt?, errandAt?]
    by_cases hc : c ≠ a ∧ (run s moves).originOf c = a
    · obtain ⟨job, action, -, -, hof, -, hexec⟩ := run_errand_asked hp hjob hm hc.1 hc.2
      cases hrequest : op.requestName? with
      | none => simp [hc]
      | some name => simp [hc, hof, hexec.requestName? hrequest]
    · rw [if_neg hc, if_neg fun h => hc ⟨h.1, h.2.1⟩]
      rfl

/-- No errand sends two requests. -/
theorem run_nodup_errandAt? (hp : (run s moves).parties[a]? = some p)
    (hjob : p.job.activation? = some options) :
    ((run s moves).moments.filterMap ((run s moves).errandAt? a)).Nodup := by
  rw [List.nodup_iff_count_le_one]
  intro c
  by_cases hc : c ∈ (run s moves).moments.filterMap ((run s moves).errandAt? a)
  · obtain ⟨-, -, -, -, -, hlen⟩ := run_mem_errandAt? hp hjob hc
    exact Nat.le_trans (count_errandAt?_le _ a c _) hlen
  · rw [List.count_eq_zero_of_not_mem hc]
    exact Nat.zero_le 1

/-- No two errands have the same action. -/
theorem run_errand_inj (hp : (run s moves).parties[a]? = some p)
    (hjob : p.job.activation? = some options) {e e' : TaskId × Job}
    (he : e ∈ (run s moves).errands a) (he' : e' ∈ (run s moves).errands a)
    (hsame : e.2.action? = e'.2.action?) : e = e' := by
  obtain ⟨project, d, -, hactions⟩ := run_errands hp hjob (spawns_ne_nil_of_mem_errands he)
  have hnodup : (((run s moves).errands a).map fun e => e.2.action?).Nodup :=
    hactions.sublist.nodup (d.nodup_actions.map fun _ _ heq => Option.some.inj heq)
  exact List.inj_on_of_nodup_map hnodup he he' hsame

/-- The requests that the errands of an activation have sent are for different actions, those of
the decision that the activation has ended with. -/
theorem run_errand_names (hp : (run s moves).parties[a]? = some p)
    (hjob : p.job.activation? = some options) :
    ∃ actions : List Action, (run s moves).moments.filterMap ((run s moves).errandSentAt? a) =
        actions.map Action.name ∧ actions.Nodup ∧
      (actions ≠ [] → ∃ project d,
        p.state = .ended (.ok (.activation (some ⟨.dispatched, some project, some d⟩))) ∧
        actions ⊆ d.actions) := by
  refine ⟨_, run_filterMap_errandSentAt? hp hjob, ?_, fun hne => ?_⟩
  · refine List.Nodup.map_on (fun c hc c' hc' hsame => ?_) (run_nodup_errandAt? hp hjob)
    obtain ⟨job, action, hmem, haction, hof, -⟩ := run_mem_errandAt? hp hjob hc
    obtain ⟨job', action', hmem', haction', hof', -⟩ := run_mem_errandAt? hp hjob hc'
    rw [hof, hof'] at hsame
    exact congrArg Prod.fst (run_errand_inj hp hjob hmem hmem' (by rw [haction, haction', hsame]))
  · -- One errand shows with which decision the activation has ended, and that is the one of all.
    obtain ⟨c, hc⟩ := List.exists_mem_of_ne_nil _ (mt List.map_eq_nil_iff.2 hne)
    obtain ⟨job, action, hmem, -⟩ := run_mem_errandAt? hp hjob hc
    obtain ⟨-, -, project, d, hstate, -⟩ := run_errand_action hp hjob hmem
    refine ⟨project, d, hstate, fun action haction => ?_⟩
    obtain ⟨c, hc, rfl⟩ := List.mem_map.1 haction
    obtain ⟨job, action, hmem, haction, rfl, -⟩ := run_mem_errandAt? hp hjob hc
    obtain ⟨action', haction', project', d', hstate', hin⟩ := run_errand_action hp hjob hmem
    obtain rfl := Option.some.inj (haction.symm.trans haction')
    cases hstate.symm.trans hstate'
    exact hin

end Run

/-- The course of the activation `a`, which stands at `state`: it has sent `p` probes and `l`
requests for the project list, and its errands have sent requests for `actions`. -/
structure Course (s : Setup) (x : Interleaving) (a : TaskId) (state : Task.State) (p l : Nat)
    (actions : List Action) : Prop where
  /-- The requests, in order. -/
  sent : x.sent a = List.replicate p Poll.pingRequest ++ List.replicate l Registry.listRequest ++
    actions.map Action.name
  /-- The probes are within their budget. -/
  probes : (p : Int) ≤ s.config.polling.maxAttempts
  /-- The requests for the list are within theirs. -/
  listings : (l : Int) ≤ s.config.polling.registryAttempts
  /-- No action is asked for twice. -/
  nodup : actions.Nodup
  /-- All actions are those of one decision, the one that the activation has ended with. -/
  decision : actions ≠ [] → ∃ project d,
    state = .ended (.ok (.activation (some ⟨.dispatched, some project, some d⟩))) ∧
    actions ⊆ d.actions
  /-- When the list was asked for, a probe had succeeded and the project had been found. -/
  listing : ∀ pre params post,
    x.moments = pre ++ .asked a (.request Registry.listRequest params) :: post →
    Activation.Reached s (dialogueAt pre a)
  /-- When an action was asked for, the list had been given. -/
  action : ∀ pre c (action : Action) params post,
    x.moments = pre ++ .asked c (.request action.name params) :: post → x.originOf c = a →
    ∃ records, Registry.Listed (dialogueAt pre a) records
  /-- An activation that has ended has made no probe exactly if the wait before the first one
  failed. -/
  unprobed : ∀ r, state = .ended r → (p = 0 ↔
    ∃ e, r = .error e ∧ x.dialogue a = [⟨.wait s.config.polling.warmup, .error e⟩])
  /-- In a world, that wait fails exactly if the program sleeps by itself and the delay is beyond
  all doubles. -/
  overlong : ∀ r (w : World), state = .ended r → w.Waited (x.dialogue a) →
    (p = 0 ↔ w.scheduling = .own ∧ 2 ^ 1024 - 2 ^ 970 ≤ s.config.polling.warmup.natAbs)
  /-- An activation that returns, returns a result, and its status tells how far it came. -/
  status : ∀ value, state = .ended (.ok value) → ∃ result, value = .activation (some result) ∧
    (result.status = .exhausted ↔ ¬Activation.Reached s (x.dialogue a)) ∧
    (result.status = .exhausted → (p : Int) = s.config.polling.maxAttempts ∧ l = 0) ∧
    (result.status = .registryUnavailable ↔ (l : Int) = s.config.polling.registryAttempts ∧
      ∀ records, ¬Registry.Listed (x.dialogue a) records) ∧
    (result.status = .dispatched ↔ ∃ records, Registry.Listed (x.dialogue a) records) ∧
    (result.status = .alreadyInFlight → l = 0 ∧ actions = [])

/-- Where the list was asked for, the activation had got through. -/
theorem Reachable.listing_reached (h : Reachable s x) {a : TaskId} {p : Party}
    (hp : x.parties[a]? = some p) {options : Option Options} (hjob : p.job = .activation options)
    {pre post : List Moment} {params : Options}
    (hm : x.moments = pre ++ .asked a (.request Registry.listRequest params) :: post) :
    Activation.Reached s (dialogueAt pre a) := by
  have hask := h.asked_fits (Job.program_course s) hm hp
  rw [hjob] at hask
  rcases hask.request _ rfl with ⟨hname, -⟩ | ⟨-, hreached, -⟩
  · exact absurd hname (by decide)
  · exact hreached

/-- Where an action was asked for on behalf of an activation, the list had been given to it. -/
theorem Reachable.action_listed (h : Reachable s x) {a : TaskId} {p : Party}
    (hp : x.parties[a]? = some p) {options : Option Options} (hjob : p.job = .activation options)
    {pre post : List Moment} {c : TaskId} {action : Action} {params : Options}
    (hm : x.moments = pre ++ .asked c (.request action.name params) :: post)
    (hc : x.originOf c = a) : ∃ records, Registry.Listed (dialogueAt pre a) records := by
  obtain ⟨y, next, hy, rfl, hready, hop, hkin⟩ := h.snapshot hm
  obtain ⟨q, hq, -⟩ := state?_eq_some.1 hready
  have hqkin := kin?_of_party hq
  have hyc : y.originOf c = a := by
    rw [originOf_eq, hkin c _ hqkin] at hc
    rw [originOf_eq, hqkin]
    exact hc
  have hne : c ≠ a := by
    -- An activation itself asks for no action.
    rintro rfl
    have hask := h.asked_fits (Job.program_course s) hm hp
    rw [hjob] at hask
    rcases hask.request _ rfl with ⟨hname, -⟩ | ⟨hname, -⟩
    · cases action <;> exact absurd hname (by decide)
    · cases action <;> exact absurd hname (by decide)
  -- So the task was started, by an activation that asked for it once the list was given.
  have hstarted : y.spawns a ≠ [] := fun hnil => hne (hy.kinship.eq_of_originOf hnil hyc)
  obtain ⟨⟨b, job⟩, hb⟩ := List.exists_mem_of_ne_nil _ hstarted
  obtain ⟨ans, hans, hspawned⟩ := List.mem_filterMap.1 hb
  obtain ⟨t, u, htu⟩ := List.append_of_mem hans
  obtain ⟨q', hq'⟩ := hy.exists_party (List.ne_nil_of_mem hans)
  have hjob' : q'.job = .activation options := (job_eq_of_kin? hkin hp hq').trans hjob
  obtain ⟨hpast, -⟩ := hy.follows (Job.program_course s) a q' hq'
  have hask := hpast t ans u htu
  rw [hjob'] at hask
  obtain ⟨op, reply⟩ := ans
  cases op with
  | spawn name j =>
    obtain ⟨records, hrecords⟩ := hask.spawn name j rfl
    refine ⟨records, ?_⟩
    change Registry.Listed (y.dialogue a) records
    rw [htu]
    exact Registry.listed_append.2 (Or.inl hrecords)
  | _ => cases hspawned

section Valid

variable {t : Dialogue} {n l : Nat}

/-- An activation of a checked configuration cannot have its settings of polling refused. -/
theorem budget_of_valid {p : Config.Polling} (h : p.Valid) (e : Failure) :
    Budget.make p.maxAttempts p.warmup ≠ .error e := by
  have hmax := h.maxAttempts
  have hwarmup := h.warmup
  rw [Budget.make, if_neg (by omega), if_neg (by omega)]
  intro heq
  cases heq

theorem probes_of_valid (h : s.config.polling.Valid) :
    (Activation.probes s : Int) = s.config.polling.maxAttempts := by
  have hmax := h.maxAttempts
  exact Int.toNat_of_nonneg (by omega)

theorem listings_of_valid (h : s.config.polling.Valid) :
    (Activation.listings s : Int) = s.config.polling.registryAttempts := by
  have hattempts := h.registryAttempts
  exact Int.toNat_of_nonneg (by omega)

/-- What the end of an activation tells about its dialogue, in which a number of probes was made and
the list was asked for a number of times. -/
structure OwnEnd (s : Setup) (options : Option Options) (t : Dialogue) (n l : Nat)
    (r : Except Failure Job.Result) : Prop where
  /-- No probe was made exactly if the wait before the first one failed. -/
  unprobed : n = 0 ↔ ∃ e, r = .error e ∧ t = [⟨.wait s.config.polling.warmup, .error e⟩]
  /-- Otherwise that wait succeeded. -/
  warmed : n ≠ 0 → ⟨.wait s.config.polling.warmup, .ok ()⟩ ∈ t
  /-- A result tells how far the activation came. -/
  concluded : ∀ value, r = .ok value → ∃ result, value = .activation (some result) ∧
    Activation.Concluded s options t n l result

/-- In a world, no probe is made exactly if the program sleeps by itself and the first delay is
beyond all doubles. -/
theorem OwnEnd.overlong {options : Option Options} {r : Except Failure Job.Result}
    (h : OwnEnd s options t n l r) {w : World} (hw : w.Waited t) :
    n = 0 ↔ w.scheduling = .own ∧ 2 ^ 1024 - 2 ^ 970 ≤ s.config.polling.warmup.natAbs := by
  rw [← World.wait_fails_iff]
  constructor
  · intro hzero
    obtain ⟨e, -, rfl⟩ := h.unprobed.1 hzero
    exact ⟨e, hw _ _ List.mem_cons_self⟩
  · rintro ⟨e, he⟩
    by_contra hpos
    rw [hw _ _ (h.warmed hpos)] at he
    cases he

/-- What the status of a result tells, in terms of the settings. -/
theorem status_of_concluded (hvalid : s.config.polling.Valid) {options : Option Options}
    {result : Activation.Result} (h : Activation.Concluded s options t n l result) :
    (result.status = .exhausted ↔ ¬Activation.Reached s t) ∧
    (result.status = .exhausted → (n : Int) = s.config.polling.maxAttempts ∧ l = 0) ∧
    (result.status = .registryUnavailable ↔ (l : Int) = s.config.polling.registryAttempts ∧
      ∀ records, ¬Registry.Listed t records) ∧
    (result.status = .dispatched ↔ ∃ records, Registry.Listed t records) ∧
    (result.status = .alreadyInFlight → l = 0) := by
  have hlistings := listings_of_valid hvalid
  have hattempts := hvalid.registryAttempts
  refine ⟨h.exhausted_iff, fun hstatus => ?_, ?_, h.dispatched_iff, fun hstatus => ?_⟩
  · rw [Activation.Concluded, hstatus] at h
    obtain ⟨rfl, hl, -⟩ := h
    exact ⟨probes_of_valid hvalid, hl⟩
  · rw [h.registryUnavailable_iff (by omega), ← hlistings, Int.natCast_inj]
  · rw [Activation.Concluded, hstatus] at h
    exact h.2.1

variable {a : TaskId} {p : Party} {options : Option Options}

/-- The numbers of requests of an activation that has ended, and what its end tells about them. -/
theorem Reachable.ended_course (h : Reachable s x) (hvalid : s.config.polling.Valid)
    (hp : x.parties[a]? = some p) (hjob : p.job = .activation options)
    {r : Except Failure Job.Result} (hr : p.state = .ended r) :
    ∃ n l, n ≤ Activation.probes s ∧ l ≤ Activation.listings s ∧
      x.moments.filterMap (sentBy? a) =
        List.replicate n Poll.pingRequest ++ List.replicate l Registry.listRequest ∧
      OwnEnd s options (x.dialogue a) n l r := by
  obtain ⟨-, hrest⟩ := h.follows (Job.program_course s) a p hp
  rw [hjob, hr, Task.State.residual, ensures_done, Job.CourseEnd] at hrest
  obtain ⟨ended, rfl, ⟨n, l, hn, hl, hrequests, hcourse⟩, hwarmed⟩ := hrest
  -- Nothing is awaited any more, so all requests were answered.
  have hown := h.own_eq a
  rw [awaiting_of_state? (state?_eq_some.2 ⟨p, hp, hr⟩)] at hown
  simp only [Task.State.pending, List.filterMap_nil, List.append_nil] at hown
  have hsilent : ∀ {e : Failure}, x.dialogue a = [⟨.wait s.config.polling.warmup, .error e⟩] →
      n = 0 := by
    intro e hdialogue
    rw [hdialogue] at hrequests
    have hlen := congrArg List.length hrequests
    simp [Ask.requestName?] at hlen
    omega
  refine ⟨n, l, hn, hl, hown.trans hrequests, ⟨⟨fun hzero => ?_, ?_⟩, fun hpos => ?_, ?_⟩⟩
  · cases ended with
    | error e =>
      obtain ⟨-, hpos | hwait | ⟨-, hrefused⟩⟩ := hcourse
      · omega
      · exact ⟨e, rfl, hwait⟩
      · exact absurd hrefused (budget_of_valid hvalid e)
    | ok result =>
      have hprobes := probes_of_valid hvalid
      have hmax := hvalid.maxAttempts
      have hpos := hcourse.one_le (by omega)
      omega
  · rintro ⟨e, -, hdialogue⟩
    exact hsilent hdialogue
  · rcases hwarmed with ⟨u, hu⟩ | ⟨e, -, hdialogue⟩ | ⟨e, hrefused⟩
    · rw [hu]
      exact List.mem_cons_self
    · exact absurd (hsilent hdialogue) hpos
    · exact absurd hrefused (budget_of_valid hvalid e)
  · intro value hvalue
    cases ended with
    | error e => cases hvalue
    | ok result =>
      obtain rfl := Except.ok.inj hvalue
      exact ⟨result, rfl, hcourse⟩

/-- The numbers of requests of an activation, and what its end tells about them once it has ended.
-/
theorem Reachable.own_course (h : Reachable s x) (hvalid : s.config.polling.Valid)
    (hp : x.parties[a]? = some p) (hjob : p.job = .activation options) :
    ∃ n l, n ≤ Activation.probes s ∧ l ≤ Activation.listings s ∧
      x.moments.filterMap (sentBy? a) =
        List.replicate n Poll.pingRequest ++ List.replicate l Registry.listRequest ∧
      ∀ r, p.state = .ended r → OwnEnd s options (x.dialogue a) n l r := by
  by_cases hended : ∃ r, p.state = .ended r
  · obtain ⟨r, hr⟩ := hended
    obtain ⟨n, l, hn, hl, hown, hend⟩ := h.ended_course hvalid hp hjob hr
    refine ⟨n, l, hn, hl, hown, fun r' hr' => ?_⟩
    rw [hr, Task.State.ended.injEq] at hr'
    rw [← hr']
    exact hend
  · obtain ⟨n, l, hn, hl, hown⟩ := h.own_shape hp hjob
    exact ⟨n, l, hn, hl, hown, fun r hr => absurd ⟨r, hr⟩ hended⟩

end Valid

/-- Every activation of a checked configuration keeps to its course, whatever other tasks do in
between and whatever the replies are. -/
theorem activation_course (s : Setup) (home : Option FsPath) (data : Entries)
    (hconfig : Config.ofEntries home data = .ok s.config) (moves : List Move) (a : TaskId)
    (party : Party) (hp : (run s moves).parties[a]? = some party) (options : Option Options)
    (hjob : party.job = .activation options) :
    ∃ p l actions, Course s (run s moves) a party.state p l actions := by
  have hx := run_reachable s moves
  have hvalid := Config.ofEntries_valid hconfig
  have hprobes := probes_of_valid hvalid
  have hlistings := listings_of_valid hvalid
  have hactivation : party.job.activation? = some options := by rw [hjob]; rfl
  obtain ⟨actions, hnames, hnodup, hdecision⟩ := run_errand_names hp hactivation
  obtain ⟨p, l, hpn, hln, hown, hend⟩ := hx.own_course hvalid hp hjob
  refine ⟨p, l, actions, ?_, by omega, by omega, hnodup, hdecision,
    fun pre params post hm => hx.listing_reached hp hjob hm,
    fun pre c action params post hm hc => hx.action_listed hp hjob hm hc,
    fun r hr => (hend r hr).unprobed, fun r w hr hw => (hend r hr).overlong hw,
    fun value hvalue => ?_⟩
  · rw [hx.sent_eq hp hactivation, hown, hnames]
  · obtain ⟨result, rfl, hconcluded⟩ := (hend _ hvalue).concluded value rfl
    obtain ⟨hexhausted, hspent, hunavailable, hdispatched, hskipped⟩ :=
      status_of_concluded hvalid hconcluded
    refine ⟨result, rfl, hexhausted, hspent, hunavailable, hdispatched, fun hstatus => ?_⟩
    refine ⟨hskipped hstatus, ?_⟩
    -- Only activations that end as dispatched have errands.
    by_contra hne
    obtain ⟨project, d, hstate, -⟩ := hdecision hne
    rw [hvalue] at hstate
    cases hstate
    cases hstatus

/-- An activation whose first wait fails. -/
def faltering : List Move :=
  [.start (.activation none), .go 0, .reply 0 fun _ => .error .delayTooLong, .go 0]

/-- The activations of a host that gives the service more time than a double can tell. -/
def sluggish : Setup :=
  { Setup.standard with
    config := { Config.standard with polling := { warmup := ((2 ^ 256) ^ 4 : Nat) } } }

/-- An activation that sleeps by itself and cannot wait for its first probe makes none. -/
theorem faltering_course : ∃ (w : World) (l : Nat) (actions : List Action),
    Config.ofEntries (some ⟨.root, []⟩) (Config.warmupData ((2 ^ 256) ^ 4 : Nat)) =
      .ok sluggish.config ∧
    w.scheduling = .own ∧ w.Waited ((run sluggish faltering).dialogue 0) ∧
    Course sluggish (run sluggish faltering) 0 (.ended (.error .delayTooLong)) 0 l actions := by
  have hconfig : Config.ofEntries (some ⟨.root, []⟩) (Config.warmupData ((2 ^ 256) ^ 4 : Nat)) =
      .ok sluggish.config := Config.ofEntries_warmup (by decide)
  obtain ⟨p, l, actions, hcourse⟩ := activation_course sluggish _ _ hconfig faltering 0
    ⟨.activation none, 0, .ended (.error .delayTooLong)⟩ rfl none rfl
  have hdelay : 2 ^ 1024 - 2 ^ 970 ≤ sluggish.config.polling.warmup.natAbs := by
    change _ ≤ Int.natAbs ((2 ^ 256) ^ 4 : Nat)
    rw [Int.natAbs_natCast, ← Nat.pow_mul]
    omega
  let w : World := { host := .bare, scheduling := .own }
  have hwaited : w.Waited ((run sluggish faltering).dialogue 0) := by
    intro ms reply hmem
    have hdialogue : (run sluggish faltering).dialogue 0 =
        [⟨.wait sluggish.config.polling.warmup, .error .delayTooLong⟩] := rfl
    rw [hdialogue, List.mem_singleton] at hmem
    cases hmem
    exact World.wait_overlong rfl hdelay
  obtain rfl : p = 0 := (hcourse.overlong _ w rfl hwaited).2 ⟨rfl, hdelay⟩
  exact ⟨w, l, actions, hconfig, rfl, hwaited, hcourse⟩

end Interleaving

end IndexSync
