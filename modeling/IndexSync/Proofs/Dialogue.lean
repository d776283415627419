import IndexSync.Task.Program

/-!
# Dialogues

A dialogue is what a task has asked and been answered so far. The module relates programs to their
dialogues, whatever the replies:

* `Program.Leads p t q` — after the dialogue `t`, what is left of `p` is `q`;
* `Program.Ensures Q R p t` — when `p` is carried out after the dialogue `t`, every question fits
  the dialogue before it in the sense of `Q`, and so does the result in the sense of `R`;
* `Program.Only C p` — all questions of `p` are of a kind, whatever the dialogue before them.

`Ensures` is computed along the program: a sequence is checked part by part (`ensures_bind`), and a
contained failure is a result like any other (`ensures_attempt`). What a program ensures, it ensures
of what is left of it at any point (`Leads.ensures`).
-/

namespace IndexSync

/-- A question with the reply it was given. -/
structure Answer where
  /-- The question. -/
  op : Ask
  /-- The reply. -/
  reply : Except Failure op.Reply

/-- What a task has asked and been answered so far, in order. -/
abbrev Dialogue := List Answer

/-- The name of the request that a question sends. -/
def Ask.requestName? : Ask → Option String
  | .request name _ => some name
  | _ => none

/-- The task that was started, with its job. -/
def Answer.spawned? : Answer → Option (TaskId × Job)
  | ⟨.spawn _ job, .ok id⟩ => some (id, job)
  | _ => none

/-- The names of the requests of a dialogue, in order. -/
def Dialogue.requests (t : Dialogue) : List String := t.filterMap fun a => a.op.requestName?

/-- The tasks that were started in a dialogue, in order. -/
def Dialogue.spawned (t : Dialogue) : List (TaskId × Job) := t.filterMap Answer.spawned?

@[simp]
theorem Dialogue.requests_nil : Dialogue.requests [] = [] := rfl

@[simp]
theorem Dialogue.requests_cons (a : Answer) (t : Dialogue) :
    Dialogue.requests (a :: t) = a.op.requestName?.toList ++ t.requests := by
  cases h : a.op.requestName? <;> simp [requests, h]

@[simp]
theorem Dialogue.requests_append (t u : Dialogue) :
    Dialogue.requests (t ++ u) = t.requests ++ u.requests := List.filterMap_append

@[simp]
theorem Dialogue.spawned_nil : Dialogue.spawned [] = [] := rfl

@[simp]
theorem Dialogue.spawned_cons (a : Answer) (t : Dialogue) :
    Dialogue.spawned (a :: t) = a.spawned?.toList ++ t.spawned := by
  cases h : a.spawned? <;> simp [spawned, h]

@[simp]
theorem Dialogue.spawned_append (t u : Dialogue) :
    Dialogue.spawned (t ++ u) = t.spawned ++ u.spawned := List.filterMap_append

namespace Ask

/-- A question that is answered on the spot, so that the task that asks it does not pause. -/
def isPrompt : Ask → Bool
  | .emit _ => true
  | .enter _ => true
  | .leave _ => true
  | .spawn _ _ => true
  | _ => false

/-- A reply that can arise: questions that are answered on the spot are not answered by a
failure. -/
def Permits (op : Ask) (reply : Except Failure op.Reply) : Prop :=
  op.isPrompt = true → ∃ a, reply = .ok a

/-- Every question has a reply that can arise. -/
theorem exists_permits (op : Ask) : ∃ reply, op.Permits reply := by
  cases op with
  | emit e => exact ⟨.ok (), fun _ => ⟨(), rfl⟩⟩
  | enter key => exact ⟨.ok true, fun _ => ⟨true, rfl⟩⟩
  | leave key => exact ⟨.ok (), fun _ => ⟨(), rfl⟩⟩
  | spawn name job => exact ⟨.ok (0 : Nat), fun _ => ⟨(0 : Nat), rfl⟩⟩
  | _ => exact ⟨.error .nothingToSave, fun h => absurd h (by simp [isPrompt])⟩

end Ask

/-- The questions of a dialogue at which the task paused, in order. -/
def Dialogue.pauses (t : Dialogue) : List Ask :=
  (t.map Answer.op).filter fun op => !op.isPrompt

@[simp]
theorem Dialogue.pauses_append (t u : Dialogue) :
    Dialogue.pauses (t ++ u) = t.pauses ++ u.pauses := by
  simp [pauses]

/-- Only the question to start a task starts one. -/
theorem Answer.spawned?_of_not_isPrompt {a : Answer} (h : a.op.isPrompt = false) :
    a.spawned? = none := by
  obtain ⟨op, reply⟩ := a
  cases op <;> first | rfl | cases h

/-- What stands somewhere in a record that grew is the new entry, or it stood there before. -/
theorem snoc_eq_append_cons {α : Type} {l pre post : List α} {a b : α}
    (h : l ++ [b] = pre ++ a :: post) :
    (post = [] ∧ a = b ∧ l = pre) ∨ ∃ post', post = post' ++ [b] ∧ l = pre ++ a :: post' := by
  rcases List.eq_nil_or_concat post with rfl | ⟨post', c, rfl⟩
  · obtain ⟨hl, hlast⟩ := List.append_inj' h rfl
    exact Or.inl ⟨rfl, (List.singleton_inj.1 hlast).symm, hl⟩
  · rw [List.concat_eq_append, ← List.cons_append, ← List.append_assoc] at h
    obtain ⟨hl, hlast⟩ := List.append_inj' h rfl
    rw [List.concat_eq_append, List.singleton_inj.1 hlast]
    exact Or.inr ⟨post', rfl, hl⟩

namespace Program

variable {α β : Type}

/-- After the dialogue `t`, what is left of a program is another. -/
inductive Leads : Program α → Dialogue → Program α → Prop where
  /-- Nothing was asked yet. -/
  | here (p : Program α) : Leads p [] p
  /-- The first question was answered, and the rest of the dialogue followed. -/
  | next {op : Ask} {next : Except Failure op.Reply → Program α} {reply : Except Failure op.Reply}
      {t : Dialogue} {q : Program α} :
      op.Permits reply → Leads (next reply) t q → Leads (.ask op next) (⟨op, reply⟩ :: t) q

/-- One more question is answered. -/
theorem Leads.snoc {p : Program α} {t : Dialogue} {op : Ask}
    {next : Except Failure op.Reply → Program α} {reply : Except Failure op.Reply}
    (h : p.Leads t (.ask op next)) (hreply : op.Permits reply) :
    p.Leads (t ++ [⟨op, reply⟩]) (next reply) := by
  generalize hq : Program.ask op next = q at h
  induction h with
  | here p =>
    subst hq
    exact .next hreply (.here _)
  | next hfirst _ ih => exact .next hfirst (ih hq)

/-- One dialogue after the other. -/
theorem Leads.trans {p q r : Program α} {t u : Dialogue} (h : p.Leads t q) (h' : q.Leads u r) :
    p.Leads (t ++ u) r := by
  induction h with
  | here p => exact h'
  | next hreply _ ih => exact .next hreply (ih h')

/-- A sequence goes the way of its first part. -/
theorem Leads.bind {p q : Program α} {t : Dialogue} (h : p.Leads t q) (f : α → Program β) :
    (p >>= f).Leads t (q >>= f) := by
  induction h with
  | here p => exact .here _
  | next hreply _ ih => exact .next hreply ih

/-- A sequence goes on with its second part. -/
theorem Leads.bind_ok {p : Program α} {f : α → Program β} {q : Program β} {a : α} {t u : Dialogue}
    (h : p.Leads t (.done (.ok a))) (h' : (f a).Leads u q) : (p >>= f).Leads (t ++ u) q :=
  (h.bind f).trans h'

/-- A program whose end is looked at has the dialogues that it has. -/
theorem Leads.attempt {p q : Program α} {t : Dialogue} (h : p.Leads t q) :
    p.attempt.Leads t q.attempt := by
  induction h with
  | here p => exact .here _
  | next hreply _ ih => exact .next hreply ih

/-- A question that is answered is a dialogue of its own. -/
theorem leads_call (op : Ask) {reply : Except Failure op.Reply} (hreply : op.Permits reply) :
    (Program.call op).Leads [⟨op, reply⟩] (.done reply) :=
  .next hreply (.here _)

variable {Q Q' : Dialogue → Ask → Prop} {R R' : Dialogue → Except Failure α → Prop}

/-- However a program is answered after a dialogue, each of its questions fits the dialogue before
it, and its result fits the whole dialogue. -/
def Ensures (Q : Dialogue → Ask → Prop) (R : Dialogue → Except Failure α → Prop) :
    Program α → Dialogue → Prop
  | .done r, t => R t r
  | .ask op next, t =>
    Q t op ∧ ∀ reply, op.Permits reply → Ensures Q R (next reply) (t ++ [⟨op, reply⟩])

@[simp]
theorem ensures_done {r : Except Failure α} {t : Dialogue} :
    (Program.done r).Ensures Q R t ↔ R t r := Iff.rfl

@[simp]
theorem ensures_pure {a : α} {t : Dialogue} :
    (pure a : Program α).Ensures Q R t ↔ R t (.ok a) := Iff.rfl

theorem ensures_ask {op : Ask} {next : Except Failure op.Reply → Program α} {t : Dialogue} :
    (Program.ask op next).Ensures Q R t ↔
      Q t op ∧ ∀ reply, op.Permits reply → (next reply).Ensures Q R (t ++ [⟨op, reply⟩]) := Iff.rfl

/-- What is ensured may be weakened. -/
theorem Ensures.mono {p : Program α} {t : Dialogue} (h : p.Ensures Q R t)
    (hQ : ∀ t op, Q t op → Q' t op) (hR : ∀ t r, R t r → R' t r) : p.Ensures Q' R' t := by
  induction p generalizing t with
  | done r => exact hR t r h
  | ask op next ih => exact ⟨hQ t op h.1, fun reply hreply => ih reply (h.2 reply hreply)⟩

/-- What is ensured of the result may be weakened. -/
theorem Ensures.weaken {p : Program α} {t : Dialogue} (h : p.Ensures Q R t)
    (hR : ∀ t r, R t r → R' t r) : p.Ensures Q R' t :=
  h.mono (fun _ _ hQ => hQ) hR

/-- What is ensured in two ways is ensured at once. -/
theorem Ensures.and {p : Program α} {t : Dialogue} (h : p.Ensures Q R t)
    (h' : p.Ensures Q' R' t) :
    p.Ensures (fun t op => Q t op ∧ Q' t op) (fun t r => R t r ∧ R' t r) t := by
  induction p generalizing t with
  | done r => exact ⟨h, h'⟩
  | ask op next ih =>
    exact ⟨⟨h.1, h'.1⟩, fun reply hreply => ih reply (h.2 reply hreply) (h'.2 reply hreply)⟩

/-- What a program ensures of its dialogue, it ensures of the part of a longer dialogue that is
its own. -/
theorem Ensures.shift {p : Program α} {t : Dialogue} (h : p.Ensures Q R t) (s : Dialogue) :
    p.Ensures (fun t op => ∃ u, t = s ++ u ∧ Q u op) (fun t r => ∃ u, t = s ++ u ∧ R u r)
      (s ++ t) := by
  induction p generalizing t with
  | done r => exact ⟨t, rfl, h⟩
  | ask op next ih =>
    refine ⟨⟨t, rfl, h.1⟩, fun reply hreply => ?_⟩
    rw [List.append_assoc]
    exact ih reply (h.2 reply hreply)

/-- A result is as `P` says, and a failure is passed on to a whole that is to end as `R` says. -/
def Passing (R : Dialogue → Except Failure β → Prop) (P : α → Dialogue → Prop) (t : Dialogue) :
    Except Failure α → Prop
  | .ok a => P a t
  | .error e => R t (.error e)

@[simp]
theorem passing_ok {R : Dialogue → Except Failure β → Prop} {P : α → Dialogue → Prop}
    {t : Dialogue} {a : α} : Passing R P t (.ok a) ↔ P a t := Iff.rfl

@[simp]
theorem passing_error {R : Dialogue → Except Failure β → Prop} {P : α → Dialogue → Prop}
    {t : Dialogue} {e : Failure} : Passing R P t (.error e) ↔ R t (.error e) := Iff.rfl

/-- A sequence is checked part by part. -/
@[simp]
theorem ensures_bind {R : Dialogue → Except Failure β → Prop} {p : Program α}
    {f : α → Program β} {t : Dialogue} :
    (p >>= f).Ensures Q R t ↔
      p.Ensures Q (Passing R fun a t => (f a).Ensures Q R t) t := by
  induction p generalizing t with
  | done r => cases r <;> rfl
  | ask op next ih =>
    rw [ask_bind, ensures_ask, ensures_ask]
    simp only [ih]

@[simp]
theorem ensures_map {R : Dialogue → Except Failure β → Prop} {p : Program α} {f : α → β}
    {t : Dialogue} :
    (f <$> p).Ensures Q R t ↔ p.Ensures Q (Passing R fun a t => R t (.ok (f a))) t := by
  rw [map_eq_pure_bind, ensures_bind]
  rfl

/-- A program that is run to see how it ends has that end as its result. -/
@[simp]
theorem ensures_attempt {R : Dialogue → Except Failure (Except Failure α) → Prop}
    {p : Program α} {t : Dialogue} :
    p.attempt.Ensures Q R t ↔ p.Ensures Q (fun t r => R t (.ok r)) t := by
  induction p generalizing t with
  | done r => rfl
  | ask op next ih =>
    rw [attempt_ask, ensures_ask, ensures_ask]
    simp only [ih]

section Questions

variable {t : Dialogue}

theorem ensures_call {op : Ask} {R : Dialogue → Except Failure op.Reply → Prop} :
    (Program.call op).Ensures Q R t ↔
      Q t op ∧ ∀ reply, op.Permits reply → R (t ++ [⟨op, reply⟩]) reply := Iff.rfl

/-- A question that is answered on the spot. -/
theorem ensures_call_of_isPrompt (op : Ask) (hop : op.isPrompt = true)
    {R : Dialogue → Except Failure op.Reply → Prop} :
    (Program.call op).Ensures Q R t ↔
      Q t op ∧ ∀ a : op.Reply, R (t ++ [⟨op, .ok a⟩]) (.ok a) := by
  rw [ensures_call]
  refine and_congr_right fun _ => ⟨fun h a => h _ fun _ => ⟨a, rfl⟩, fun h reply hreply => ?_⟩
  obtain ⟨a, rfl⟩ := hreply hop
  exact h a

/-- A question that makes the task pause. -/
theorem ensures_call_of_not_isPrompt (op : Ask) (hop : op.isPrompt = false)
    {R : Dialogue → Except Failure op.Reply → Prop} :
    (Program.call op).Ensures Q R t ↔ Q t op ∧ ∀ reply, R (t ++ [⟨op, reply⟩]) reply := by
  rw [ensures_call]
  refine and_congr_right fun _ => ⟨fun h reply => h reply ?_, fun h reply _ => h reply⟩
  exact fun hprompt => absurd hprompt (by simp [hop])

variable {R : Dialogue → Except Failure Unit → Prop}

@[simp]
theorem ensures_emit {e : Event} :
    (Program.emit e).Ensures Q R t ↔ Q t (.emit e) ∧ R (t ++ [⟨.emit e, .ok ()⟩]) (.ok ()) :=
  (ensures_call_of_isPrompt (.emit e) rfl).trans
    (and_congr_right fun _ => ⟨fun h => h (), fun h _ => h⟩)

@[simp]
theorem ensures_leave {key : String} :
    (Program.leave key).Ensures Q R t ↔
      Q t (.leave key) ∧ R (t ++ [⟨.leave key, .ok ()⟩]) (.ok ()) :=
  (ensures_call_of_isPrompt (.leave key) rfl).trans
    (and_congr_right fun _ => ⟨fun h => h (), fun h _ => h⟩)

@[simp]
theorem ensures_enter {key : String} {R : Dialogue → Except Failure Bool → Prop} :
    (Program.enter key).Ensures Q R t ↔
      Q t (.enter key) ∧ ∀ free : Bool, R (t ++ [⟨.enter key, .ok free⟩]) (.ok free) :=
  ensures_call_of_isPrompt (.enter key) rfl

@[simp]
theorem ensures_spawn {name : String} {job : Job} {R : Dialogue → Except Failure TaskId → Prop} :
    (Program.spawn name job).Ensures Q R t ↔
      Q t (.spawn name job) ∧ ∀ id : TaskId, R (t ++ [⟨.spawn name job, .ok id⟩]) (.ok id) :=
  ensures_call_of_isPrompt (.spawn name job) rfl

@[simp]
theorem ensures_wait {ms : Int} :
    (Program.wait ms).Ensures Q R t ↔
      Q t (.wait ms) ∧ ∀ reply : Except Failure Unit, R (t ++ [⟨.wait ms, reply⟩]) reply :=
  ensures_call_of_not_isPrompt (.wait ms) rfl

@[simp]
theorem ensures_request {name : String} {params : Options}
    {R : Dialogue → Except Failure Response → Prop} :
    (Program.request name params).Ensures Q R t ↔
      Q t (.request name params) ∧
        ∀ reply : Except Failure Response, R (t ++ [⟨.request name params, reply⟩]) reply :=
  ensures_call_of_not_isPrompt (.request name params) rfl

@[simp]
theorem ensures_locate {R : Dialogue → Except Failure (Option Project) → Prop} :
    Program.locate.Ensures Q R t ↔
      Q t .locate ∧ ∀ reply : Except Failure (Option Project), R (t ++ [⟨.locate, reply⟩]) reply :=
  ensures_call_of_not_isPrompt .locate rfl

@[simp]
theorem ensures_assess {root index : FsPath} {stored : Option String}
    {R : Dialogue → Except Failure Staleness → Prop} :
    (Program.assess root index stored).Ensures Q R t ↔
      Q t (.assess root index stored) ∧
        ∀ reply : Except Failure Staleness,
          R (t ++ [⟨.assess root index stored, reply⟩]) reply :=
  ensures_call_of_not_isPrompt (.assess root index stored) rfl

@[simp]
theorem ensures_perform {action : Action} {options : Options}
    {R : Dialogue → Except Failure Value → Prop} :
    (Program.perform action options).Ensures Q R t ↔
      Q t (.perform action options) ∧
        ∀ reply : Except Failure Value, R (t ++ [⟨.perform action options, reply⟩]) reply :=
  ensures_call_of_not_isPrompt (.perform action options) rfl

end Questions

/-- What a program ensures, it ensures of what is left of it after a dialogue. -/
theorem Leads.ensures {p q : Program α} {t s : Dialogue} (h : p.Leads t q)
    (hp : p.Ensures Q R s) : q.Ensures Q R (s ++ t) := by
  induction h generalizing s with
  | here p => simpa using hp
  | next hreply _ ih =>
    have := ih (hp.2 _ hreply)
    simpa using this

/-- The questions of a dialogue of a program are as the program ensures. -/
theorem Leads.past {p q : Program α} {t s : Dialogue} (h : p.Leads t q) (hp : p.Ensures Q R s)
    {u v : Dialogue} {a : Answer} (htu : t = u ++ a :: v) : Q (s ++ u) a.op := by
  induction h generalizing s u with
  | here p => simp at htu
  | @next op next reply t q hreply _ ih =>
    cases u with
    | nil =>
      obtain ⟨rfl, -⟩ := List.cons.inj htu
      simpa using hp.1
    | cons b u =>
      obtain ⟨rfl, ht⟩ := List.cons.inj htu
      have := ih (hp.2 reply hreply) ht
      simpa using this

/-- A program asks nothing but questions of a kind, however it is answered. -/
def Only (C : Ask → Prop) : Program α → Prop
  | .done _ => True
  | .ask op next => C op ∧ ∀ reply, Only C (next reply)

section Only

variable {C : Ask → Prop}

@[simp]
theorem only_done (r : Except Failure α) : (Program.done r).Only C := trivial

@[simp]
theorem only_pure (a : α) : (pure a : Program α).Only C := trivial

@[simp]
theorem only_call {op : Ask} : (Program.call op).Only C ↔ C op :=
  ⟨fun h => h.1, fun h => ⟨h, fun _ => trivial⟩⟩

theorem Only.bind {p : Program α} {f : α → Program β} (hp : p.Only C) (hf : ∀ a, (f a).Only C) :
    (p >>= f).Only C := by
  induction p with
  | done r =>
    cases r with
    | error e => trivial
    | ok a => exact hf a
  | ask op next ih => exact ⟨hp.1, fun reply => ih reply (hp.2 reply)⟩

/-- What is asked may be described in less detail. -/
theorem Only.mono {C' : Ask → Prop} {p : Program α} (hp : p.Only C) (h : ∀ op, C op → C' op) :
    p.Only C' := by
  induction p with
  | done r => trivial
  | ask op next ih => exact ⟨h op hp.1, fun reply => ih reply (hp.2 reply)⟩

theorem Only.attempt {p : Program α} (hp : p.Only C) : p.attempt.Only C := by
  induction p with
  | done r => trivial
  | ask op next ih => exact ⟨hp.1, fun reply => ih reply (hp.2 reply)⟩

/-- The kind of its questions is something that a program ensures. -/
theorem Only.ensures {p : Program α} (hp : p.Only C) (t : Dialogue) :
    p.Ensures (fun _ op => C op) (fun _ _ => True) t := by
  induction p generalizing t with
  | done r => trivial
  | ask op next ih => exact ⟨hp.1, fun reply _ => ih reply (hp.2 reply) _⟩

/-- The questions of a dialogue of a program are of the kind that it asks. -/
theorem Leads.only {p q : Program α} {t : Dialogue} (h : p.Leads t q) (hp : p.Only C) :
    ∀ a ∈ t, C a.op := by
  intro a ha
  obtain ⟨u, v, htu⟩ := List.append_of_mem ha
  exact h.past (hp.ensures []) htu

/-- What is left of a program asks nothing else either. -/
theorem Leads.residual_only {p q : Program α} {t : Dialogue} (h : p.Leads t q) (hp : p.Only C) :
    q.Only C := by
  induction h with
  | here p => exact hp
  | next _ _ ih => exact ih (hp.2 _)

end Only

/-- The questions of a program and its result are those that its dialogues lead to. -/
theorem ensures_leads (p : Program α) (s : Dialogue) :
    p.Ensures (fun t op => ∃ u next, t = s ++ u ∧ p.Leads u (.ask op next))
      (fun t r => ∃ u, t = s ++ u ∧ p.Leads u (.done r)) s := by
  suffices h : ∀ (q : Program α) (u : Dialogue), p.Leads u q →
      q.Ensures (fun t op => ∃ u next, t = s ++ u ∧ p.Leads u (.ask op next))
        (fun t r => ∃ u, t = s ++ u ∧ p.Leads u (.done r)) (s ++ u) by
    simpa using h p [] (.here p)
  intro q
  induction q with
  | done r => exact fun u hu => ⟨u, rfl, hu⟩
  | ask op next ih =>
    intro u hu
    refine ⟨⟨u, next, rfl, hu⟩, fun reply hreply => ?_⟩
    rw [List.append_assoc]
    exact ih reply (u ++ [⟨op, reply⟩]) (hu.snoc hreply)

end Program

end IndexSync
