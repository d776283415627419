import IndexSync.Proofs.Activation.Failing
import IndexSync.Proofs.Activation.Unanswered
import IndexSync.Proofs.Interleaving.Course
import IndexSync.Proofs.Interleaving.Echo
import Mathlib.Algebra.BigOperators.Ring.Finset

/-!
# Activations do not affect each other

Whatever else goes on, an activation and the tasks that it starts do what a lone activation does
that is given the same replies, and the same answer when it claims its project. No budget is shared,
and no setting, no reply and no claim of another activation shows in anything but that answer.

* `Interleaving.issued` — what is asked on behalf of an activation;
* `Interleaving.Mirrored` — an activation and a lone one do the same;
* `World.vainProbes` — how often an activation probes a service that does not answer;
* `Interleaving.activations_isolated` — every activation is mirrored by a lone one, and activations
  that are not answered probe the service as often as each of them would alone.
-/

namespace IndexSync

open Program

/-- The question that was asked at a moment. -/
def Moment.question? : Moment → Option Ask
  | .asked _ op => some op
  | .answered _ _ => none

/-- The name of the request that was sent at a moment. -/
def Moment.request? (m : Moment) : Option String := m.question?.bind Ask.requestName?

/-- The key that somebody else is told to have claimed. -/
def Answer.taken? : Answer → Option String
  | ⟨.enter key, .ok false⟩ => some key
  | _ => none

/-- The same question, with replies that are the same apart from the number of a task that was
started. -/
inductive Answer.Renumbered : Answer → Answer → Prop where
  /-- The replies. -/
  | mk {op : Ask} {r r' : Except Failure op.Reply} (h : op.Renumbered r r') :
      Renumbered ⟨op, r⟩ ⟨op, r'⟩

namespace World

/-- A wait of this length fails. -/
def Overlong (w : World) (ms : Int) : Prop := w.scheduling = .own ∧ 2 ^ 1024 - 2 ^ 970 ≤ ms.natAbs

instance (w : World) (ms : Int) : Decidable (w.Overlong ms) := inferInstanceAs (Decidable (_ ∧ _))

/-- The number of probes that an activation makes of a service that answers none of them. -/
def vainProbes (w : World) (p : Config.Polling) : Nat :=
  if w.Overlong p.warmup then 0 else if w.Overlong p.pingInterval then 1 else p.maxAttempts.toNat

variable {w : World} {t : Dialogue} {ms : Int}

theorem overlong_of_failed (hw : w.Waited t) {e : Failure} (h : ⟨.wait ms, .error e⟩ ∈ t) :
    w.Overlong ms :=
  (wait_fails_iff w ms).1 ⟨e, hw ms _ h⟩

theorem not_overlong_of_passed (hw : w.Waited t) (h : ⟨.wait ms, .ok ()⟩ ∈ t) : ¬w.Overlong ms := by
  intro hlong
  obtain ⟨e, he⟩ := (wait_fails_iff w ms).2 hlong
  rw [hw ms _ h] at he
  cases he

end World

namespace Activation

variable {s : Setup} {t : Dialogue} {r : Except Failure Result} {w : World}

/-- In a world, the number of probes that are not answered is known from the settings. -/
theorem VainEnd.requests (h : VainEnd s t r) (hw : w.Waited t)
    (hvalid : s.config.polling.Valid) :
    t.requests = List.replicate (w.vainProbes s.config.polling) Poll.pingRequest := by
  have hmax : 1 ≤ probes s := by
    have hattempts := hvalid.maxAttempts
    rw [probes]
    omega
  rw [World.vainProbes]
  rcases h with ⟨hprobed, -⟩ | ⟨hnone, e, -, hfailed⟩ | ⟨e, -, n, hpos, hlt, hprobed, hfailed⟩
  · -- The budget is spent.
    rw [if_neg (World.not_overlong_of_passed hw hprobed.warmup), hprobed.requests]
    split
    · next hlong =>
      rcases Nat.lt_or_ge (probes s) 2 with hone | htwo
      · rw [show probes s = 1 by omega]
      · exact absurd hlong (World.not_overlong_of_passed hw (hprobed.interval htwo))
    · rfl
  · rw [if_pos (World.overlong_of_failed hw hfailed)]
    exact hnone
  · -- There was no further probe, as each would have been waited for.
    have hlong := World.overlong_of_failed hw hfailed
    rw [if_neg (World.not_overlong_of_passed hw hprobed.warmup), if_pos hlong, hprobed.requests]
    rcases Nat.lt_or_ge n 2 with hone | htwo
    · rw [show n = 1 by omega]
    · exact absurd hlong (World.not_overlong_of_passed hw (hprobed.interval htwo))

/-- To resolve a project, the service is not probed. -/
theorem resolve_only (s : Setup) (options : Option Options) :
    (resolve s options).Only fun op => op.requestName? ≠ some Poll.pingRequest := by
  have hreconcile : ∀ project, (reconcile s project options).Only
      fun op => op.requestName? ≠ some Poll.pingRequest := fun project =>
    reconcile_only (by simp [Ask.requestName?]) (by simp [Ask.requestName?])
      (by simp [Ask.requestName?]) (by decide) (by simp [Ask.requestName?])
  refine Only.bind (only_call.2 (by simp [Ask.requestName?])) fun found => ?_
  split
  · exact Only.bind (only_call.2 (by simp [Ask.requestName?])) fun _ => trivial
  · next project =>
    refine Only.bind ?_ fun _ => trivial
    refine Only.bind (only_call.2 (by simp [Ask.requestName?])) fun free => ?_
    split
    · exact Only.bind (hreconcile project).attempt fun _ =>
        Only.bind (only_call.2 (by simp [Ask.requestName?])) fun _ => trivial
    · exact Only.bind (only_call.2 (by simp [Ask.requestName?])) fun _ => trivial

end Activation

namespace Job

/-- A job that probes the service. -/
def isPolling : Job → Bool
  | .activation _ => true
  | _ => false

/-- Only activations probe the service. -/
theorem program_noProbe (s : Setup) {job : Job} (h : job.isPolling = false) :
    (job.program s).Only fun op => op.requestName? ≠ some Poll.pingRequest := by
  cases hjob : job.activation? with
  | some options =>
    cases job with
    | resolution options => exact (Activation.resolve_only s options).bind fun _ => trivial
    | activation options => cases h
    | _ => cases hjob
  | none =>
    refine (program_only s hjob).mono fun op hop hname => ?_
    cases op with
    | request name params =>
      obtain ⟨action, rfl⟩ := hop
      cases action <;> simp [Ask.requestName?, Action.name, Poll.pingRequest] at hname
    | _ => cases hname

end Job

namespace Interleaving

variable {s : Setup} {x y : Interleaving} {a : TaskId} {kin : List TaskId}

/-- What is asked on behalf of an activation, by itself or by a task that it has started, in the
order in which it is asked: requests with their parameters, waits, and all else that is paused for.
-/
def issued (x : Interleaving) (a : TaskId) : List Ask :=
  (x.moments.filter fun m => x.originOf m.task = a).filterMap Moment.question?

/-- What was asked is the same in an echo. -/
theorem Echo.issued (h : x.Echo a kin y) (hx : Reachable s x) : y.issued 0 = x.issued a := by
  -- What is attributed to the activation is what the tasks of the kin have asked.
  have hown : (x.moments.filter fun m => x.originOf m.task = a) =
      x.moments.filter fun m => m.task ∈ kin := by
    refine List.filter_congr fun m hm => ?_
    rw [decide_eq_decide]
    refine ⟨h.mem_of_originOf (hx.task_lt hm), fun hmem => ?_⟩
    obtain ⟨p, hp, horigin⟩ := (h.mem _).1 hmem
    rw [originOf, hp]
    exact horigin
  rw [Interleaving.issued, Interleaving.issued, hown]
  -- The echo has no other tasks, so that all of its moments count.
  have horigin : ∀ {m m' : Moment}, m.Echo kin m' → y.originOf m'.task = 0 := by
    intro m m' hm
    have htask : ∃ c, kin[m'.task]? = some c := by
      cases hm with
      | asked hi op => exact ⟨_, hi⟩
      | answered hi hr => exact ⟨_, hi⟩
    obtain ⟨c, hc⟩ := htask
    obtain ⟨p, -, -, hecho⟩ := h.exists_party hc
    rw [originOf, hecho]
    rfl
  have hmoments := h.moments
  generalize (x.moments.filter fun m => m.task ∈ kin) = old, y.moments = new at hmoments
  induction hmoments with
  | nil => rfl
  | cons hm _ ih =>
    rw [List.filter_cons, if_pos (by simpa using horigin hm), List.filterMap_cons,
      List.filterMap_cons, ih]
    cases hm with
    | asked hi op => rfl
    | answered hi hr => rfl

/-- A task and its echo have asked the same and were answered the same. -/
theorem Echo.dialogue (h : x.Echo a kin y) {i : Nat} {c : TaskId} (hi : kin[i]? = some c) :
    List.Forall₂ Answer.Renumbered (x.dialogue c) (y.dialogue i) := by
  -- Moments of tasks outside the kin are no answers to this one.
  have hown : x.dialogue c =
      (x.moments.filter fun m => m.task ∈ kin).filterMap (·.answerTo? c) := by
    rw [List.filterMap_filter]
    refine List.filterMap_congr fun m _ => ?_
    cases m with
    | asked id op => simp [Moment.answerTo?]
    | answered id b =>
      by_cases hid : id = c
      · subst hid
        simp [Moment.task, List.mem_of_getElem? hi]
      · simp [Moment.answerTo?, hid]
  have hmoments := h.moments
  rw [hown, Interleaving.dialogue]
  generalize (x.moments.filter fun m => m.task ∈ kin) = old, y.moments = new at hmoments
  induction hmoments with
  | nil => exact .nil
  | cons hm _ ih =>
    rw [List.filterMap_cons, List.filterMap_cons]
    cases hm with
    | asked hj op => exact ih
    | @answered j d hj op r r' hr =>
      by_cases hd : d = c
      · subst hd
        obtain rfl := h.index_inj hi hj
        simp only [Moment.answerTo?, if_pos]
        exact .cons ⟨hr⟩ ih
      · have hij : j ≠ i := by
          rintro rfl
          exact hd (Option.some.inj (hj.symm.trans hi))
        simp only [Moment.answerTo?, if_neg hd, if_neg hij]
        exact ih

/-- No activation tests the claims twice. -/
theorem Reachable.single_test (h : Reachable s x) {i j : Nat} {key key' : String}
    {r : Except Failure (Ask.enter key).Reply} {r' : Except Failure (Ask.enter key').Reply}
    (hi : (x.dialogue a)[i]? = some ⟨.enter key, r⟩)
    (hj : (x.dialogue a)[j]? = some ⟨.enter key', r'⟩) : i = j := by
  -- Nothing about claims is asked before a test.
  have hfirst : ∀ {i j : Nat} {key key' : String} {r : Except Failure (Ask.enter key).Reply}
      {r' : Except Failure (Ask.enter key').Reply}, i < j →
      (x.dialogue a)[i]? = some ⟨.enter key, r⟩ → (x.dialogue a)[j]? ≠ some ⟨.enter key', r'⟩ := by
    intro i j key key' r r' hlt hi hj
    obtain ⟨hjlt, hjeq⟩ := List.getElem?_eq_some_iff.1 hj
    have hsplit := List.take_append_drop j (x.dialogue a)
    rw [List.drop_eq_getElem_cons hjlt, hjeq] at hsplit
    obtain ⟨p, hp⟩ := h.exists_party (List.ne_nil_of_mem (List.mem_of_getElem? hi))
    obtain ⟨hpast, -⟩ := h.follows (Job.program_guarded s) a p hp
    have hask := hpast _ _ _ hsplit.symm
    have hmem : (⟨.enter key, r⟩ : Answer) ∈ (x.dialogue a).take j :=
      List.mem_of_getElem? (by rw [List.getElem?_take, if_pos hlt]; exact hi)
    rw [Job.GuardedAsk] at hask
    split at hask
    · exact absurd (hask.1 _ hmem) (by simp [Ask.isProbe])
    · cases hask
  rcases Nat.lt_trichotomy i j with hlt | heq | hgt
  · exact absurd hj (hfirst hlt hi)
  · exact heq
  · exact absurd hi (hfirst hgt hj)

/-- The keys that an activation is told to be claimed by others. -/
def takenFrom (x : Interleaving) (a : TaskId) : List String :=
  (x.dialogue a).filterMap Answer.taken?

/-- Where these keys are claimed, its test would be answered the same. -/
theorem Reachable.agrees (h : Reachable s x) {b : Answer} (hb : b ∈ x.dialogue a) :
    b.Agrees (x.takenFrom a) := by
  obtain ⟨op, r⟩ := b
  cases op with
  | enter key =>
    obtain ⟨p, hp⟩ := h.exists_party (List.ne_nil_of_mem hb)
    obtain ⟨free, rfl⟩ : ∃ free : Bool, r = .ok free := (h.led a p hp).permits _ hb rfl
    obtain ⟨i, hi⟩ := List.mem_iff_getElem?.1 hb
    change Except.ok free = Except.ok (!(x.takenFrom a).contains key)
    congr 1
    cases free with
    | false =>
      have hmem : key ∈ x.takenFrom a := List.mem_filterMap.2 ⟨_, hb, rfl⟩
      rw [List.contains_iff_mem.2 hmem]
      rfl
    | true =>
      have hnot : key ∉ x.takenFrom a := by
        intro hmem
        obtain ⟨⟨op, r⟩, hb', htaken⟩ := List.mem_filterMap.1 hmem
        obtain ⟨j, hj⟩ := List.mem_iff_getElem?.1 hb'
        cases op with
        | enter key' =>
          -- There is one test only, and it has found the key free.
          obtain rfl := h.single_test hi hj
          cases hi.symm.trans hj
          cases htaken
        | _ => cases htaken
      simp [hnot]
  | _ => trivial

/-- An activation does the same as a lone one, to which some moves lead. -/
structure Mirrored (x : Interleaving) (a : TaskId) (job : Job) (lone : List Move)
    (y : Interleaving) : Prop where
  /-- The lone activation is started first, with nothing claimed but what the other one was told to
  be claimed, and only tasks that take part make moves. -/
  leads : y = lone.foldl move (alone x.setup (x.takenFrom a) job) ∧ ∀ m ∈ lone, ∃ id, m.IsOf id
  /-- There is but one test of the claims, so that it is told of one key at most. -/
  test : ∀ (i j : Nat) (key key' : String) r r', (x.dialogue a)[i]? = some ⟨.enter key, r⟩ →
    (x.dialogue a)[j]? = some ⟨.enter key', r'⟩ → i = j
  /-- There are no tasks but those of the lone activation. -/
  solitary : ∀ i : Nat, i < y.parties.length → y.originOf i = 0
  /-- Its questions were answered the same. -/
  replies : List.Forall₂ Answer.Renumbered (x.dialogue a) (y.dialogue 0)
  /-- The same was asked on behalf of both, in the same order. -/
  issued : y.issued 0 = x.issued a
  /-- Both have ended the same, or stand at the same question. -/
  state : y.state? 0 = x.state? a
  /-- The tasks that they have started, too, have asked the same and were answered the same. -/
  echo : ∃ kin, x.Echo a kin y

/-- The activations that take part. -/
def pollers (x : Interleaving) : Finset TaskId :=
  (Finset.range x.parties.length).filter fun i =>
    (x.parties[i]?.any fun p => p.job.isPolling) = true

/-- The number of times that the service was probed, by whomever. -/
def pings (x : Interleaving) : Nat := (x.moments.filterMap Moment.request?).count Poll.pingRequest

/-- Whatever was requested was requested by one of the tasks. -/
theorem count_request (name : String) {n : Nat} {l : List Moment} (hl : ∀ m ∈ l, m.task < n) :
    (l.filterMap Moment.request?).count name =
      ∑ i ∈ Finset.range n, (l.filterMap (sentBy? i)).count name := by
  induction l with
  | nil => simp
  | cons m l ih =>
    have hrest := ih fun m' hm' => hl m' (List.mem_cons_of_mem m hm')
    have hcons : ∀ f : Moment → Option String, ((m :: l).filterMap f).count name =
        (l.filterMap f).count name + if f m = some name then 1 else 0 := by
      intro f
      cases hf : f m with
      | none => rw [List.filterMap_cons_none hf, if_neg (by simp), Nat.add_zero]
      | some name' =>
        rw [List.filterMap_cons_some hf, List.count_cons]
        simp
    rw [hcons, hrest, Finset.sum_congr rfl fun i _ => hcons (sentBy? i), Finset.sum_add_distrib]
    congr 1
    -- The moment is about one of the tasks.
    cases m with
    | answered id b => simp [Moment.request?, Moment.question?, sentBy?]
    | asked id op =>
      have hid : id < n := hl _ List.mem_cons_self
      by_cases hname : op.requestName? = some name
      · simp [Moment.request?, Moment.question?, sentBy?, hname, hid]
      · simp [Moment.request?, Moment.question?, sentBy?, hname]

/-- A task that is no activation does not probe the service. -/
theorem Reachable.noProbe (h : Reachable s x) {c : TaskId} {p : Party} (hp : x.parties[c]? = some p)
    (hjob : p.job.isPolling = false) :
    (x.moments.filterMap (sentBy? c)).count Poll.pingRequest = 0 := by
  rw [List.count_eq_zero]
  intro hmem
  obtain ⟨m, hm, hname⟩ := List.mem_filterMap.1 hmem
  obtain ⟨pre, post, hsplit⟩ := List.append_of_mem hm
  cases m with
  | answered id b => cases hname
  | asked id op =>
    obtain ⟨rfl, hrequest⟩ := Option.ite_none_right_eq_some.1 hname
    have hasked := h.asked_fits
      (Q := fun job _ op => job.isPolling = false → op.requestName? ≠ some Poll.pingRequest)
      (R := fun _ _ _ => True) (fun job => ?_) hsplit hp
    · exact hasked hjob hrequest
    · cases hcase : job.isPolling with
      | true => exact (ensures_leads _ []).mono (fun _ _ _ h => by cases h) fun _ _ _ => trivial
      | false =>
        exact ((Job.program_noProbe s hcase).ensures []).mono (fun _ _ hop _ => hop)
          fun _ _ _ => trivial

/-- An activation that has ended without having been answered has probed the service as often as the
settings and the world allow. -/
theorem Reachable.vain_probes (h : Reachable s x) (hvalid : s.config.polling.Valid) {c : TaskId}
    {p : Party} (hp : x.parties[c]? = some p) (hjob : p.job.isPolling = true)
    {r : Except Failure Job.Result} (hr : p.state = .ended r)
    (hvain : ¬Activation.Heard s (x.dialogue c)) {w : World} (hw : w.Waited (x.dialogue c)) :
    (x.moments.filterMap (sentBy? c)).count Poll.pingRequest =
      w.vainProbes s.config.polling := by
  have hown := h.own_eq c
  rw [awaiting_of_state? (state?_eq_some.2 ⟨p, hp, hr⟩)] at hown
  simp only [Task.State.pending, List.filterMap_nil, List.append_nil] at hown
  have hends : ∀ job : Job, (job.program s).Ensures (fun _ _ => True) (fun t _ =>
      job.isPolling = true → Activation.Heard s t ∨ ∃ ended, Activation.VainEnd s t ended) [] := by
    intro job
    cases job with
    | activation options =>
      rw [Job.program, ensures_bind]
      refine (Activation.run_vain options (budget_of_valid hvalid)).weaken ?_
      rintro t (e | result) hend
      · exact fun _ => hend.imp_right fun hend => ⟨_, hend⟩
      · exact fun _ => hend.imp_right fun hend => ⟨_, hend⟩
    | _ => exact (ensures_leads _ []).mono (fun _ _ _ => trivial) fun _ _ _ h => by cases h
  obtain ⟨-, hrest⟩ := h.follows hends c p hp
  rw [hr] at hrest
  rcases hrest hjob with hheard | ⟨ended, hend⟩
  · exact absurd hheard hvain
  · rw [hown, hend.requests hw hvalid, List.count_replicate_self]

/-- Activations among others. -/
structure Isolated (s : Setup) (x : Interleaving) : Prop where
  /-- Every activation is mirrored by a lone one. -/
  mirrored : ∀ a p, x.parties[a]? = some p → p.job.isActivation = true →
    ∃ lone y, Mirrored x a p.job lone y
  /-- Activations of a checked configuration that have ended without having been answered have
  probed the service as often as their settings and the waits of the world allow. -/
  pings : ∀ home data (w : World), Config.ofEntries home data = .ok s.config →
    (∀ c ∈ x.pollers, (∃ r, x.state? c = some (.ended r)) ∧ w.Waited (x.dialogue c) ∧
      ∀ reply, ⟨Activation.probe s, reply⟩ ∈ x.dialogue c →
        ∃ r : Response, reply = .ok r ∧ r.ok = false) →
    x.pings = x.pollers.card * w.vainProbes s.config.polling

/-- Activations do not affect each other, whatever the interleaving. -/
theorem activations_isolated (s : Setup) (moves : List Move) : Isolated s (run s moves) := by
  have hx := run_reachable s moves
  refine ⟨fun a p hp hjob => ?_, fun home data w hconfig hvain => ?_⟩
  · obtain ⟨kin, lone, hlone, hecho, -⟩ := run_echo hp hjob fun b hb => hx.agrees hb
    refine ⟨lone, _, ⟨by rw [hx.orderly.setup], hlone⟩,
      fun i j key key' r r' hi hj => hx.single_test hi hj, fun i hi => ?_,
      hecho.dialogue hecho.first,
      hecho.issued hx, hecho.state? hecho.first, kin, hecho⟩
    rw [hecho.length] at hi
    obtain ⟨q, -, -, hq⟩ := hecho.exists_party (List.getElem?_eq_getElem hi)
    rw [originOf, hq]
    rfl
  · have hvalid := Config.ofEntries_valid hconfig
    generalize run s moves = x at hx hvain ⊢
    rw [pings, count_request _ fun m hm => hx.task_lt hm,
      ← Finset.sum_const_nat (f := fun _ => w.vainProbes s.config.polling) fun _ _ => rfl,
      pollers, Finset.sum_filter]
    refine Finset.sum_congr rfl fun c hc => ?_
    obtain ⟨p, hp⟩ : ∃ p, x.parties[c]? = some p :=
      ⟨_, List.getElem?_eq_getElem (Finset.mem_range.1 hc)⟩
    cases hjob : p.job.isPolling with
    | false =>
      rw [hx.noProbe hp hjob, hp, Option.any_some, hjob, if_neg (by decide)]
    | true =>
      have hpoll : c ∈ x.pollers := Finset.mem_filter.2 ⟨hc, by rw [hp, Option.any_some, hjob]⟩
      obtain ⟨⟨r, hr⟩, hwaited, hunanswered⟩ := hvain c hpoll
      obtain ⟨q, hq, hstate⟩ := state?_eq_some.1 hr
      obtain rfl := Option.some.inj (hp.symm.trans hq)
      rw [hp, Option.any_some, hjob, if_pos rfl]
      refine hx.vain_probes hvalid hp hjob hstate ?_ hwaited
      rintro ⟨reply, hreply, hok⟩
      obtain ⟨response, rfl, hfalse⟩ := hunanswered reply hreply
      rw [hok response rfl] at hfalse
      cases hfalse

section Silence

/-- Data that sets nothing but the number of probes. -/
def briefData : Entries := [(.str "polling", .map [(.str "max_attempts", .int 2)])]

/-- The activations of a host that does not try often. -/
def brief : Setup :=
  { Setup.standard with config := { Config.standard with polling := { maxAttempts := 2 } } }

/-- The replies of a service that does nothing. -/
def mute : (op : Ask) → Except Failure op.Reply
  | .request _ _ => .ok { ok := false }
  | op => obliging op

/-- Two activations take turns, and the service answers neither. -/
def silence : List Move :=
  let turn (a : TaskId) : List Move := [.go a, .reply a mute]
  [.start (.activation none), .start (.activation none)] ++
    (List.replicate 4 (turn 0 ++ turn 1)).flatten ++ [.go 0, .go 1]

/-- Two activations that are not answered probe the service twice each, and an activation that is
refused a project does what it would do alone where that project is claimed. -/
theorem silence_isolated : Config.ofEntries (some ⟨.root, []⟩) briefData = .ok brief.config ∧
    (run brief silence).pings = 2 * 2 ∧
    (run .standard encounter).takenFrom 1 = [PathKey.ofText .sensitive "/p"] ∧
    ∃ lone y, Mirrored (run .standard encounter) 1 (.activation none) lone y := by
  have hconfig : Config.ofEntries (some ⟨.root, []⟩) briefData = .ok brief.config := rfl
  let w : World := { host := .bare }
  have hpollers : (run brief silence).pollers = {0, 1} := rfl
  have hpings := (activations_isolated brief silence).pings _ _ w hconfig fun c hc => ?_
  · exact ⟨hconfig, hpings, rfl, (activations_isolated .standard encounter).mirrored 1 _ rfl rfl⟩
  · have hdialogue : (run brief silence).dialogue c = (run brief silence).dialogue 0 ∧
        (run brief silence).state? c = (run brief silence).state? 0 := by
      rw [hpollers, Finset.mem_insert, Finset.mem_singleton] at hc
      rcases hc with rfl | rfl
      · exact ⟨rfl, rfl⟩
      · exact ⟨rfl, rfl⟩
    have hanswers : ∃ e e' : Event, (run brief silence).dialogue 0 =
        [⟨.wait 200, .ok ()⟩, ⟨Activation.probe brief, .ok { ok := false }⟩, ⟨.emit e, .ok ()⟩,
          ⟨.wait 500, .ok ()⟩, ⟨Activation.probe brief, .ok { ok := false }⟩, ⟨.emit e', .ok ()⟩] :=
      ⟨_, _, rfl⟩
    obtain ⟨e, e', hanswers⟩ := hanswers
    rw [hdialogue.1, hdialogue.2, hanswers]
    refine ⟨⟨_, rfl⟩, fun ms reply hmem => ?_, fun reply hmem => ?_⟩
    · simp only [List.mem_cons, List.not_mem_nil, or_false] at hmem
      rcases hmem with h | h | h | h | h | h <;> cases h <;> rfl
    · simp only [List.mem_cons, List.not_mem_nil, or_false] at hmem
      rcases hmem with h | h | h | h | h | h <;> cases h <;> exact ⟨_, rfl, rfl⟩

end Silence

end Interleaving

end IndexSync
