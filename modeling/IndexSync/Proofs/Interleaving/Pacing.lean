import IndexSync.Proofs.Activation.Pacing
import IndexSync.Proofs.Configuration.Loading
import IndexSync.Proofs.Configuration.RoundTrip
import IndexSync.Proofs.Interleaving.Ending
import IndexSync.Proofs.Interleaving.Isolation

/-!
# The pace of activations

What is checked when a configuration is loaded is what activations rely on: with a configuration
that was loaded, no activation is refused its settings, each probes the service, and asks it for the
project list once it has claimed a project, and the waits in between are positive and few.

* `Interleaving.waits` — the delays that are waited for on behalf of an activation;
* `Interleaving.Pacing` — what is sure of an activation of a loaded configuration;
* `Interleaving.load_pacing` — whatever configuration is loaded, its activations keep the pace.
-/

namespace IndexSync

open Program

namespace Job

/-- When a task that is an activation may wait. -/
def PacedAsk (s : Setup) : Job → Dialogue → Ask → Prop
  | .activation _ => Activation.PacedAsk s
  | _ => fun _ _ => True

/-- What a task that is an activation has waited for when it ends. -/
def PacedEnd (s : Setup) : Job → Dialogue → Except Failure Job.Result → Prop
  | .activation _ => fun t _ => Activation.Paced (Activation.waitLimit s) t.waits
  | _ => fun _ _ => True

/-- Activations keep the pace. -/
theorem program_paced {s : Setup} (hvalid : s.config.polling.Valid) (job : Job) :
    (job.program s).Ensures (job.PacedAsk s) (job.PacedEnd s) [] := by
  cases job with
  | activation options =>
    rw [Job.program, ensures_bind]
    refine (Activation.paced_ensures hvalid options).weaken ?_
    rintro t (e | result) ht
    · exact ht
    · exact ht
  | _ => exact (ensures_leads _ []).mono (fun _ _ _ => trivial) fun _ _ _ => trivial

end Job

/-- Waits are not answered on the spot. -/
theorem Dialogue.waits_eq (t : Dialogue) : t.waits = t.pauses.filterMap Ask.wait? := by
  induction t with
  | nil => rfl
  | cons b t ih =>
    rw [← List.singleton_append, Dialogue.pauses_append, List.filterMap_append, ← ih, waits,
      List.filterMap_append]
    congr 1
    obtain ⟨op, reply⟩ := b
    cases op <;> rfl

namespace Interleaving

variable {s : Setup} {x : Interleaving}

/-- The delay that is waited for at a moment on behalf of an activation. -/
def waitedAt? (x : Interleaving) (id : TaskId) : Moment → Option Int
  | .asked task op => if x.originOf task = id then op.wait? else none
  | .answered _ _ => none

/-- The delays that are waited for on behalf of an activation, in order. -/
def waits (x : Interleaving) (id : TaskId) : List Int := x.moments.filterMap (x.waitedAt? id)

/-- The delays that an activation itself waits for. -/
theorem Reachable.paced (h : Reachable s x) (hvalid : s.config.polling.Valid) {a : TaskId}
    {p : Party} (hp : x.parties[a]? = some p) {options : Option Options}
    (hjob : p.job = .activation options) :
    Activation.Paced (Activation.waitLimit s) ((x.asked a).filterMap Ask.wait?) := by
  obtain ⟨hpast, hrest⟩ := h.follows (Job.program_paced hvalid) a p hp
  rw [hjob] at hpast hrest
  rw [h.recorded a, List.filterMap_append, ← Dialogue.waits_eq,
    awaiting_of_state? (state?_eq_some.2 ⟨p, hp, rfl⟩)]
  cases hstate : p.state with
  | ended r =>
    rw [hstate] at hrest
    simp only [Task.State.pending, List.filterMap_nil, List.append_nil]
    exact hrest
  | blocked op next =>
    rw [hstate] at hrest
    have hpending : [op].filterMap Ask.wait? = op.wait?.toList := by
      cases hwait : op.wait? <;> simp [hwait]
    rw [Task.State.pending, hpending]
    exact hrest.1
  | ready q =>
    simp only [Task.State.pending, List.filterMap_nil, List.append_nil]
    -- The question that was answered last was no wait too many.
    rcases List.eq_nil_or_concat (x.dialogue a) with hnil | ⟨t, b, htb⟩
    · rw [hnil, Dialogue.waits_nil]
      exact ⟨by simp, Nat.zero_le _⟩
    · rw [List.concat_eq_append] at htb
      rw [htb, Dialogue.waits_snoc]
      exact hpast t b [] htb

/-- What a task was answered where it paused is among the questions that it has asked. -/
theorem Reachable.asked_of_answered (h : Reachable s x) {id : TaskId} {b : Answer}
    (hb : b ∈ x.dialogue id) (hop : b.op.isPrompt = false) : b.op ∈ x.asked id := by
  rw [h.recorded id]
  refine List.mem_append_left _ (List.mem_filter.2 ⟨List.mem_map_of_mem hb, ?_⟩)
  rw [hop]
  rfl

section Run

variable {moves : List Move} {a : TaskId} {p : Party} {options : Option Options}

/-- Whatever else is asked on behalf of an activation, it is no wait. -/
theorem run_errand_wait? (hp : (run s moves).parties[a]? = some p)
    (hjob : p.job.activation? = some options) {c : TaskId} {op : Ask}
    (hm : .asked c op ∈ (run s moves).moments) (hne : c ≠ a)
    (hc : (run s moves).originOf c = a) : op.wait? = none := by
  obtain ⟨job, action, -, -, -, -, hexec⟩ := run_errand_asked hp hjob hm hne hc
  rcases hexec with ⟨-, root, -, rfl⟩ | ⟨-, rfl⟩
  · rfl
  · rfl

/-- All waits on behalf of an activation are its own. -/
theorem run_waits (hp : (run s moves).parties[a]? = some p)
    (hjob : p.job.activation? = some options) :
    (run s moves).waits a = ((run s moves).asked a).filterMap Ask.wait? := by
  have hself := (run_reachable s moves).kinship.originOf_activation hp
    (Job.isActivation_of_activation? hjob)
  rw [waits, asked, List.filterMap_filterMap]
  refine List.filterMap_congr fun m hm => ?_
  cases m with
  | answered id answer => rfl
  | asked c op =>
    rw [waitedAt?, Moment.askedBy?]
    by_cases hca : c = a
    · rw [if_pos (hca ▸ hself), if_pos hca]
      rfl
    · rw [if_neg hca]
      split
      · next hc => exact run_errand_wait? hp hjob hm hca hc
      · rfl

/-- An activation that has claimed a project has asked for the project list. -/
theorem run_listing_asked (hvalid : s.config.polling.Valid)
    (hp : (run s moves).parties[a]? = some p) (hjob : p.job.activation? = some options)
    {key : String} (hclaim : ⟨.enter key, .ok true⟩ ∈ (run s moves).dialogue a) :
    Registry.listing ∈ (run s moves).asked a := by
  have hx := run_reachable s moves
  by_cases hended : ∃ r, p.state = .ended r
  · obtain ⟨r, hr⟩ := hended
    obtain ⟨-, hrest⟩ := hx.follows (Job.program_guarded s) a p hp
    rw [hr, Task.State.residual, ensures_done, Job.GuardedEnd, hjob] at hrest
    obtain ⟨reply, hlisted⟩ := hrest.listing_of_claim hvalid hclaim
    exact hx.asked_of_answered hlisted rfl
  · have hpausing := run_pausing (Job.program_guarded s) hp fun r hr => hended ⟨r, hr⟩
    simp only [Job.GuardedAsk, hjob] at hpausing
    rcases hpausing with hnil | ⟨op, next, hblocked, -, hask⟩ | ⟨t, b, htb, hb, hask⟩
    · rw [hnil] at hclaim
      cases hclaim
    · rcases hask.listing_of_claim hvalid hclaim with rfl | ⟨reply, hlisted⟩
      · -- It pauses at the request for the list.
        rw [hx.recorded a, awaiting_of_state? hblocked]
        exact List.mem_append_right _ (List.mem_singleton.2 rfl)
      · exact hx.asked_of_answered hlisted rfl
    · rw [htb, List.mem_append, List.mem_singleton] at hclaim
      have hanswered : ∀ c, c ∈ t ++ [b] → c.op.isPrompt = false → c.op ∈ (run s moves).asked a :=
        fun c hc => hx.asked_of_answered (htb ▸ hc)
      -- The claim is no question at which a task pauses, so it came before the last answer.
      have hbefore := hclaim.resolve_right fun heq => by
        rw [← heq] at hb
        cases hb
      rcases hask.listing_of_claim hvalid hbefore with hop | ⟨reply, hlisted⟩
      · rw [← hop]
        exact hanswered b (List.mem_append_right _ (List.mem_singleton.2 rfl)) hb
      · exact hanswered _ (List.mem_append_left _ hlisted) rfl

/-- How many probes an activation that has ended has made, and when that is none at all. -/
theorem run_ended_probes (hvalid : s.config.polling.Valid)
    (hp : (run s moves).parties[a]? = some p) (hjob : p.job = .activation options)
    {r : Except Failure Job.Result} (hr : p.state = .ended r) :
    ∃ n l, OwnEnd s options ((run s moves).dialogue a) n l r ∧
      (Poll.pingRequest ∈ (run s moves).sent a ↔ n ≠ 0) := by
  have hx := run_reachable s moves
  have hactivation : p.job.activation? = some options := by rw [hjob]; rfl
  obtain ⟨n, l, -, -, hown, hend⟩ := hx.ended_course hvalid hp hjob hr
  obtain ⟨actions, hnames, -⟩ := run_errand_names hp hactivation
  refine ⟨n, l, hend, ?_⟩
  have hlist : Poll.pingRequest ≠ Registry.listRequest := by decide
  have haction : ∀ action : Action, action.name ≠ Poll.pingRequest := by
    intro action
    cases action <;> decide
  -- Of all that was sent for it, only its own first requests are probes.
  rw [hx.sent_eq hp hactivation, hown, hnames]
  simp [List.mem_replicate, hlist, haction]

end Run

/-- What is sure of the activation `a`, which stands at `state`, if its configuration was loaded. -/
structure Pacing (s : Setup) (x : Interleaving) (a : TaskId) (state : Task.State) : Prop where
  /-- Its settings of polling are not refused. -/
  budget : ∃ b, Budget.make s.config.polling.maxAttempts s.config.polling.warmup = .ok b
  /-- It ends if it is answered whenever it pauses. -/
  ends : ∀ replies, ∃ n r, (x.attend a replies n).state? a = some (.ended r)
  /-- Once it has ended, it has probed the service, unless the wait before the first probe
  failed. -/
  probed : ∀ r, state = .ended r → Poll.pingRequest ∈ x.sent a ∨
    ∃ e, r = .error e ∧ x.dialogue a = [⟨.wait s.config.polling.warmup, .error e⟩]
  /-- In a world, that wait fails exactly if it is too long for a program that sleeps by itself. -/
  overlong : ∀ r (w : World), state = .ended r → w.Waited (x.dialogue a) →
    (Poll.pingRequest ∉ x.sent a ↔ w.Overlong s.config.polling.warmup)
  /-- Once it has claimed a project, it has asked for the project list. -/
  listed : ∀ key, ⟨.enter key, .ok true⟩ ∈ x.dialogue a → Registry.listRequest ∈ x.sent a
  /-- All waits are for positive delays. -/
  positive : ∀ ms ∈ x.waits a, 0 < ms
  /-- There are fewer waits than attempts of both kinds together. -/
  few : ((x.waits a).length : Int) ≤
    s.config.polling.maxAttempts + s.config.polling.registryAttempts - 1

/-- Whatever configuration is loaded, its settings of polling and its patterns are valid, and its
activations keep the pace, whatever other tasks do in between and whatever the replies are. -/
theorem load_pacing (h : Host) (file : FsPath) (c : Config)
    (hload : (Config.load h file).outcome = .ok c) :
    c.polling.Valid ∧ c.project.Valid ∧
      ∀ (s : Setup) (moves : List Move) (a : TaskId) (party : Party) (options : Option Options),
        s.config = c → (run s moves).parties[a]? = some party → party.job = .activation options →
        Pacing s (run s moves) a party.state := by
  obtain ⟨hpolling, hproject⟩ := Config.load_valid hload
  refine ⟨hpolling, hproject, ?_⟩
  rintro s moves a party options rfl hp hjob
  have hx := run_reachable s moves
  have hactivation : party.job.activation? = some options := by rw [hjob]; rfl
  have hself := hx.kinship.originOf_activation hp (by rw [hjob]; rfl)
  have hpaced := hx.paced hpolling hp hjob
  rw [← run_waits hp hactivation] at hpaced
  refine ⟨?_, exists_ended (state?_eq_some.2 ⟨party, hp, rfl⟩), fun r hr => ?_,
    fun r w hr hw => ?_, fun key hclaim => ?_, hpaced.positive, ?_⟩
  · cases hmake : Budget.make s.config.polling.maxAttempts s.config.polling.warmup with
    | ok b => exact ⟨b, rfl⟩
    | error e => exact absurd hmake (budget_of_valid hpolling e)
  · obtain ⟨n, l, hend, hsent⟩ := run_ended_probes hpolling hp hjob hr
    rw [hsent, ← hend.unprobed]
    exact (Decidable.em (n = 0)).symm
  · obtain ⟨n, l, hend, hsent⟩ := run_ended_probes hpolling hp hjob hr
    rw [hsent, not_not]
    exact hend.overlong hw
  · exact mem_sent.2 ⟨a, _, run_listing_asked hpolling hp hactivation hclaim, hself, rfl⟩
  · -- The limit is in terms of the budgets, and the one of probes is positive.
    have hfew := hpaced.length_le
    have hprobes := probes_of_valid hpolling
    have hlistings := listings_of_valid hpolling
    have hsome := Activation.one_le_probes hpolling
    unfold Activation.waitLimit at hfew
    omega

section Saved

open ConfigStore (rootHost nested)

/-- The configuration of `sluggish` is one that a document describes. -/
theorem settled_sluggish : sluggish.config.Settled := by
  have hsized : Json.Sized ((2 ^ 256) ^ 4 : Nat) :=
    Json.sized_pow 78 (by decide) (by decide) (by decide)
  have hdoc : Json.Document (.map (Config.warmupData ((2 ^ 256) ^ 4 : Nat))) :=
    .map (List.forall_mem_singleton.2 (.map (List.forall_mem_singleton.2 (.int hsized))))
  have hdescribes : Config.ofDocument (some ⟨.root, []⟩)
      (.map (Config.warmupData ((2 ^ 256) ^ 4 : Nat))) = .ok sluggish.config := by
    rw [Config.ofDocument, Config.ofEntries_warmup (by decide)]
    rfl
  refine Config.ofDocument_settled ?_ ?_ hdoc hdescribes
  · rintro dir ⟨⟩
    exact List.forall_mem_nil _
  · rintro dir ⟨⟩
    rfl

/-- The host after the configuration of `sluggish` was saved. -/
def sluggishHost : Host := (Config.save rootHost nested.file sluggish.config).2

/-- The configuration is loaded from the file that it was saved to. -/
theorem load_sluggish : (Config.load sluggishHost nested.file).outcome = .ok sluggish.config := by
  have htimeout : ∀ x, sluggish.config.service.timeout = some x → Json.Legible x := by
    rintro x ⟨⟩
    exact ⟨⟨_, _, _, rfl⟩, rfl⟩
  have hparse := Config.parse_fileBytes settled_sluggish htimeout sluggishHost.home?
  have hsave : Config.save rootHost nested.file sluggish.config = (.ok (), sluggishHost) :=
    Prod.ext (by rfl) rfl
  rw [Config.load_of_save rfl hsave hparse]
  rfl

/-- A configuration is loaded with which the activation of `faltering` waits once, for too long a
delay, and does not probe the service. -/
theorem sluggish_pacing :
    (Config.load sluggishHost nested.file).outcome = .ok sluggish.config ∧
      Pacing sluggish (run sluggish faltering) 0 (.ended (.error .delayTooLong)) ∧
      (run sluggish faltering).waits 0 = [sluggish.config.polling.warmup] ∧
      (run sluggish faltering).sent 0 = [] := by
  obtain ⟨-, -, hpacing⟩ := load_pacing sluggishHost nested.file _ load_sluggish
  have hp : (run sluggish faltering).parties[0]? =
      some ⟨.activation none, 0, .ended (.error .delayTooLong)⟩ := rfl
  exact ⟨load_sluggish, hpacing sluggish faltering 0 _ none rfl hp rfl, rfl, rfl⟩

end Saved

end Interleaving

end IndexSync
