import IndexSync.Proofs.Activation.Failing
import IndexSync.Proofs.Evidence
import IndexSync.Proofs.Replies
import Mathlib.Data.List.Forall2

/-!
# Asking for the project list

A query for the project list ends with the first reply that is of use, whatever number of records
that reply has, or else with its budget of requests. What a reply has to look like is stated on the
reply itself, and what the records are on the entries of its list.

* `Registry.Lists`, `Registry.lists_ofValue_iff` — the entries that a reply lists, and what a reply
  of the service has to look like for that;
* `Registry.Describes` — the record of an entry that has a root;
* `Registry.Scripted` — a dialogue whose requests are answered one after the other by a script;
* `Registry.Fetched` — the requests and waits of a query that is answered by a script, and its end;
* `Registry.fetchWithRetry_fetched` — every query is like this.
-/

namespace IndexSync

open Program

/-- The reply to a request. -/
def Answer.response? : Answer → Option (Except Failure Response)
  | ⟨.request _ _, reply⟩ => some reply
  | _ => none

/-- The replies to the requests of a dialogue, in order. -/
def Dialogue.responses (t : Dialogue) : List (Except Failure Response) :=
  t.filterMap Answer.response?

@[simp]
theorem Dialogue.responses_nil : Dialogue.responses [] = [] := rfl

@[simp]
theorem Dialogue.responses_cons (a : Answer) (t : Dialogue) :
    Dialogue.responses (a :: t) = a.response?.toList ++ t.responses := by
  cases h : a.response? <;> simp [responses, h]

@[simp]
theorem Dialogue.responses_append (t u : Dialogue) :
    Dialogue.responses (t ++ u) = t.responses ++ u.responses := List.filterMap_append

/-- Every request has one reply. -/
theorem Dialogue.length_requests (t : Dialogue) : t.requests.length = t.responses.length := by
  induction t with
  | nil => rfl
  | cons a t ih =>
    obtain ⟨op, reply⟩ := a
    rw [requests_cons, responses_cons, List.length_append, List.length_append, ih]
    cases op <;> rfl

namespace Registry

/-! ### Replies and records -/

/-- A mapping has a project list with some entries. A mapping without one has none to list. -/
inductive HasProjects (mapping : Entries) : List Value → Prop
  | absent (h : Value.lookup? mapping "projects" = none) : HasProjects mapping []
  | null (h : Value.lookup? mapping "projects" = some .null) : HasProjects mapping []
  | list {entries : List Value} (h : Value.lookup? mapping "projects" = some (.list entries)) :
      HasProjects mapping entries
  | tuple {entries : List Value} (h : Value.lookup? mapping "projects" = some (.tuple entries)) :
      HasProjects mapping entries

/-- A response to the request for the project list lists some entries. -/
def Lists (response : Response) (entries : List Value) : Prop :=
  response.ok = true ∧ HasProjects response.result entries

/-- A reply is not a failure of the channel, and of no use. -/
def Fruitless (reply : Except Failure Response) : Prop :=
  ∃ response, reply = .ok response ∧ ∀ entries, ¬Lists response entries

/-- An entry is a mapping whose root counts as true. -/
def hasRoot : Value → Bool
  | .map entries =>
    match Value.lookup? entries "root" with
    | some root => root.truthy
    | none => false
  | _ => false

/-- A record has the root and the fingerprint of an entry. -/
def Describes (v : Value) (record : Record) : Prop :=
  ∃ entries root, v = .map entries ∧ Value.lookup? entries "root" = some root ∧
    record = ⟨root.text, Record.storedFingerprint entries⟩

section Replies

variable {response : Response} {entries : List Value}

theorem lists_iff : Lists response entries ↔ entries? response = some entries := by
  constructor
  · rintro ⟨hok, h | h | h | h⟩ <;> simp [entries?, hok, h]
  · intro h
    unfold entries? at h
    cases hok : response.ok with
    | false => simp [hok] at h
    | true =>
      rw [hok] at h
      refine ⟨hok, ?_⟩
      cases hprojects : Value.lookup? response.result "projects" with
      | none =>
        rw [hprojects] at h
        obtain rfl := Option.some.inj h
        exact .absent hprojects
      | some projects =>
        rw [hprojects] at h
        cases projects with
        | null =>
          obtain rfl := Option.some.inj h
          exact .null hprojects
        | list items =>
          obtain rfl := Option.some.inj h
          exact .list hprojects
        | tuple items =>
          obtain rfl := Option.some.inj h
          exact .tuple hprojects
        | _ => cases h

/-- What the service replied is a list if it is a mapping that says that all is well and has a
project list. -/
theorem lists_ofValue_iff {v : Value} :
    Lists (.ofValue v) entries ↔
      Response.Affirms v ∧ ∃ mapping, v = .map mapping ∧ HasProjects mapping entries := by
  cases v with
  | map mapping =>
    rw [← Response.isOk_eq_true]
    simp only [Value.map.injEq, exists_eq_left']
    rfl
  | _ => simp [Lists, Response.ofValue, Response.failure]

/-- A response lists the entries whose records it gives. -/
theorem ofResponse_eq_records_iff {records : List Record} :
    Listing.ofResponse response = .records records ↔
      ∃ entries, Lists response entries ∧ records = Record.ofEntries entries := by
  simp only [ofResponse_eq_records, lists_iff]

theorem Lists.unique {others : List Value} (h : Lists response entries)
    (hothers : Lists response others) : entries = others :=
  Option.some.inj ((lists_iff.1 h).symm.trans (lists_iff.1 hothers))

theorem fruitless_ok_iff :
    Fruitless (.ok response) ↔ ∀ records, Listing.ofResponse response ≠ .records records := by
  constructor
  · rintro ⟨other, heq, hnone⟩ records hrecords
    cases heq
    obtain ⟨entries, hlists, -⟩ := ofResponse_eq_records_iff.1 hrecords
    exact hnone entries hlists
  · intro hnone
    refine ⟨response, rfl, fun entries hlists => ?_⟩
    exact hnone _ (ofResponse_eq_records_iff.2 ⟨entries, hlists, rfl⟩)

theorem not_fruitless_error (e : Failure) : ¬Fruitless (.error e) := by
  rintro ⟨response, h, -⟩
  cases h

/-- An entry with a root has a record. -/
theorem exists_record_of_hasRoot {v : Value} (h : hasRoot v = true) :
    ∃ record, Record.ofValue? v = some record ∧ Describes v record := by
  cases v with
  | map entries =>
    unfold hasRoot at h
    cases hroot : Value.lookup? entries "root" with
    | none => simp [hroot] at h
    | some root =>
      simp only [hroot] at h
      exact ⟨⟨root.text, Record.storedFingerprint entries⟩,
        by simp [Record.ofValue?, hroot, Record.textIfTrue, h], entries, root, rfl, hroot, rfl⟩
  | _ => cases h

/-- An entry without a root has no record. -/
theorem ofValue?_of_not_hasRoot {v : Value} (h : hasRoot v = false) :
    Record.ofValue? v = none := by
  cases v with
  | map entries =>
    unfold hasRoot at h
    cases hroot : Value.lookup? entries "root" with
    | none => simp [Record.ofValue?, hroot]
    | some root =>
      simp only [hroot] at h
      simp [Record.ofValue?, hroot, Record.textIfTrue, h]
  | _ => rfl

/-- The records of a list are those of its entries with a root, in order. -/
theorem forall₂_describes (entries : List Value) :
    List.Forall₂ Describes (entries.filter hasRoot) (Record.ofEntries entries) := by
  induction entries with
  | nil => exact .nil
  | cons v entries ih =>
    unfold Record.ofEntries at ih ⊢
    cases hroot : hasRoot v with
    | true =>
      obtain ⟨record, hrecord, hdescribes⟩ := exists_record_of_hasRoot hroot
      rw [List.filter_cons_of_pos hroot, List.filterMap_cons_some hrecord]
      exact .cons hdescribes ih
    | false =>
      rw [List.filter_cons_of_neg (by simp [hroot]),
        List.filterMap_cons_none (ofValue?_of_not_hasRoot hroot)]
      exact ih

end Replies

/-! ### Scripts -/

/-- The requests of a dialogue are answered by the replies of a script, one after the other, and
waiting succeeds. -/
structure Scripted (f : Nat → Except Failure Response) (t : Dialogue) : Prop where
  responses : ∀ i reply, t.responses[i]? = some reply → reply = f i
  waits : ∀ ms reply, ⟨.wait ms, reply⟩ ∈ t → reply = .ok ()

/-- What a script replies first. -/
theorem Scripted.cons_request {f : Nat → Except Failure Response} {t : Dialogue}
    (h : Scripted (fun i => f (i + 1)) t) (name : String) (params : Options) :
    Scripted f (⟨.request name params, f 0⟩ :: t) := by
  refine ⟨?_, ?_⟩
  · intro i reply hreply
    cases i with
    | zero => exact (Option.some.inj hreply).symm
    | succ i => exact h.responses i reply hreply
  · intro ms reply hmem
    rcases List.mem_cons.1 hmem with heq | hmem
    · cases heq
    · exact h.waits ms reply hmem

theorem Scripted.cons {f : Nat → Except Failure Response} {t : Dialogue} (h : Scripted f t)
    {a : Answer} (hresponse : a.response? = none) (hwait : ∀ ms reply, ⟨.wait ms, reply⟩ = a →
      reply = .ok ()) : Scripted f (a :: t) := by
  refine ⟨?_, ?_⟩
  · intro i reply hreply
    rw [Dialogue.responses_cons, hresponse] at hreply
    exact h.responses i reply hreply
  · intro ms reply hmem
    rcases List.mem_cons.1 hmem with heq | hmem
    · exact hwait ms reply heq
    · exact h.waits ms reply hmem

/-- Every program can be answered by any script. -/
theorem exists_scripted {α : Type} (p : Program α) (f : Nat → Except Failure Response) :
    ∃ t r, p.Leads t (.done r) ∧ Scripted f t := by
  induction p generalizing f with
  | done r => exact ⟨[], r, .here _, fun i reply h => by simp at h, fun ms reply h => by cases h⟩
  | ask op next ih =>
    cases op with
    | request name params =>
      -- The rest of the program is answered by the rest of the script.
      obtain ⟨t, r, hleads, ht⟩ := ih (f 0) fun i => f (i + 1)
      refine ⟨_, r, .next ?_ hleads, ht.cons_request name params⟩
      exact fun hprompt => absurd hprompt (by simp [Ask.isPrompt])
    | wait ms =>
      obtain ⟨t, r, hleads, ht⟩ := ih (.ok ()) f
      refine ⟨_, r, .next (fun _ => ⟨(), rfl⟩) hleads, ht.cons rfl ?_⟩
      rintro _ _ ⟨⟩
      rfl
    | _ =>
      obtain ⟨reply, hreply⟩ := Ask.exists_permits _
      obtain ⟨t, r, hleads, ht⟩ := ih reply f
      refine ⟨_, r, .next hreply hleads, ht.cons rfl ?_⟩
      rintro _ _ ⟨⟩

/-! ### Queries -/

/-- A number of requests, with a wait between any two of them. -/
def rounds (interval : Int) (n : Nat) : List Ask :=
  (List.replicate n listing).intersperse (.wait interval)

/-- What precedes a request: a number of requests, each with a wait after it. -/
def leading (interval : Int) (n : Nat) : List Ask :=
  (List.replicate n [listing, .wait interval]).flatten

/-- What a query has asked after some requests, all of which were to no avail. -/
structure Tried (asked : List Ask) (n : Nat) (t : Dialogue) : Prop where
  pauses : t.pauses = asked
  count : t.responses.length = n
  fruitless : ∀ reply ∈ t.responses, Fruitless reply

/-- How a query ends with the reply to a request. -/
inductive Concludes : Except Failure Response → Except Failure (Option (List Record)) → Prop
  | lost (e : Failure) : Concludes (.error e) (.error e)
  | given {response : Response} {entries : List Value} (h : Lists response entries) :
      Concludes (.ok response) (.ok (some (Record.ofEntries entries)))

/-- A dialogue of a query that has ended, and how it ended. -/
inductive Ended (interval : Int) (total : Nat) :
    Dialogue → Except Failure (Option (List Record)) → Prop
  /-- The last request concludes it. -/
  | concluded {t : Dialogue} {n : Nat} {reply : Except Failure Response}
      {r : Except Failure (Option (List Record))} (hn : n < total)
      (ht : Tried (leading interval n) n t) (hr : Concludes reply r) :
      Ended interval total (t ++ [⟨listing, reply⟩]) r
  /-- Waiting fails. -/
  | stalled {t : Dialogue} (n : Nat) (e : Failure) (ht : Tried (rounds interval n) n t) :
      Ended interval total (t ++ [⟨.wait interval, .error e⟩]) (.error e)
  /-- The budget is spent. -/
  | spent {t : Dialogue} (ht : Tried (rounds interval total) total t) :
      Ended interval total t (.ok none)

section Queries

variable {interval : Int} {total n : Nat} {t : Dialogue} {asked : List Ask}
  {r : Except Failure (Option (List Record))}

theorem rounds_succ (interval : Int) (n : Nat) :
    rounds interval (n + 1) = leading interval n ++ [listing] := by
  induction n with
  | zero => rfl
  | succ n ih =>
    have hrounds : rounds interval (n + 2) =
        listing :: .wait interval :: rounds interval (n + 1) := rfl
    rw [hrounds, ih]
    rfl

theorem leading_succ (interval : Int) (n : Nat) :
    leading interval (n + 1) = rounds interval (n + 1) ++ [.wait interval] := by
  rw [rounds_succ, leading, List.replicate_succ', List.flatten_concat, ← leading,
    List.append_assoc]
  rfl

theorem tried_nil : Tried [] 0 [] := ⟨rfl, rfl, fun _ h => by cases h⟩

/-- A question without a response does not count as a request. -/
theorem Tried.snoc (h : Tried asked n t) {a : Answer} (ha : a.response? = none) :
    Tried (asked ++ Dialogue.pauses [a]) n (t ++ [a]) := by
  refine ⟨by rw [Dialogue.pauses_append, h.pauses], ?_, ?_⟩
  · simp [ha, h.count]
  · intro reply hreply
    rw [Dialogue.responses_append, Dialogue.responses_cons, ha] at hreply
    exact h.fruitless reply (by simpa using hreply)

/-- One more request is made to no avail. -/
theorem Tried.request (h : Tried asked n t) {reply : Except Failure Response}
    (hreply : Fruitless reply) : Tried (asked ++ [listing]) (n + 1) (t ++ [⟨listing, reply⟩]) := by
  refine ⟨by rw [Dialogue.pauses_append, h.pauses]; rfl, by simp [Answer.response?, h.count], ?_⟩
  intro other hother
  rw [Dialogue.responses_append] at hother
  rcases List.mem_append.1 hother with hother | hother
  · exact h.fruitless other hother
  · rwa [List.mem_singleton.1 hother]

/-- What is asked in a query, and how it ends, whatever the replies. -/
theorem fetchWithRetry_ended (attempts interval : Int) :
    (fetchWithRetry attempts interval).Ensures (fun t _ => t.failure? = none)
      (fun t r => Activation.Passed t r ∧ Ended interval attempts.toNat t r) [] := by
  refine Rounds.fetchWithRetry
    -- After a number of requests `n`, a wait may be due (`I`) or a request (`J`); nothing has
    -- failed.
    (I := fun n t => t.failure? = none ∧ Tried (rounds interval n) n t)
    (J := fun n t => t.failure? = none ∧ Tried (leading interval n) n t)
    ⟨?emit, ?wait, ?ask, ?lost, ?given, ?missed, ?barred, ?spent⟩ ⟨rfl, tried_nil⟩
  case emit =>
    rintro n t e ⟨hsound, ht⟩
    have hnext := ht.snoc (a := ⟨.emit e, .ok ()⟩) rfl
    rw [show Dialogue.pauses [⟨.emit e, .ok ()⟩] = [] from rfl, List.append_nil] at hnext
    exact ⟨hsound, Activation.Sound.snoc_ok hsound _, hnext⟩
  case wait =>
    rintro n t hpos - ⟨hsound, ht⟩
    refine ⟨hsound, fun reply => ?_⟩
    have hpassed : Activation.Passed (t ++ [⟨.wait interval, reply⟩]) reply :=
      Activation.Sound.snoc hsound _
    cases reply with
    | error e => exact ⟨hpassed, .stalled n e ht⟩
    | ok u =>
      obtain ⟨m, rfl⟩ := Nat.exists_eq_add_one.2 hpos
      refine ⟨hpassed, ?_⟩
      rw [leading_succ]
      exact ht.snoc (a := ⟨.wait interval, .ok u⟩) rfl
  case ask =>
    rintro n t - ⟨hsound, -⟩
    exact hsound
  case lost =>
    rintro n t e hn ⟨hsound, ht⟩
    exact ⟨Activation.Sound.snoc hsound _, .concluded hn ht (.lost e)⟩
  case given =>
    rintro n t response records hn ⟨hsound, ht⟩ hrecords
    obtain ⟨entries, hlists, rfl⟩ := ofResponse_eq_records_iff.1 hrecords
    exact ⟨Activation.Sound.snoc hsound _, .concluded hn ht (.given hlists)⟩
  case missed =>
    rintro n t response - ⟨hsound, ht⟩ hnone
    refine ⟨Activation.Sound.snoc_ok hsound _, ?_⟩
    rw [rounds_succ]
    exact ht.request (fruitless_ok_iff.2 hnone)
  case barred =>
    rintro - t ⟨hsound, ht⟩
    exact ⟨hsound, ht⟩
  case spent =>
    rintro t ⟨hsound, ht⟩
    exact ⟨hsound, .spent ht⟩

end Queries

/-! ### Queries that are answered by a script -/

/-- What a query does that is answered by a script, and how it ends. -/
structure Fetched (f : Nat → Except Failure Response) (attempts interval : Int) (t : Dialogue)
    (r : Except Failure (Option (List Record))) : Prop where
  /-- There is one wait between any two requests, and none after the last. -/
  pauses : t.pauses =
    (List.replicate t.requests.length (.request listRequest [])).intersperse (.wait interval)
  /-- The first reply that is not in vain is the last one, if the budget reaches it. -/
  count : ∀ k : Nat, (∀ j < k, Fruitless (f j)) → ¬Fruitless (f k) →
    (t.requests.length : Int) = min ((k : Int) + 1) (max attempts 0)
  /-- The first list that is given is the result, with the records of all its entries that have a
  root. -/
  given : ∀ (k : Nat) response entries, (∀ j < k, Fruitless (f j)) → f k = .ok response →
    Lists response entries → k < attempts →
      ∃ records, r = .ok (some records) ∧ List.Forall₂ Describes (entries.filter hasRoot) records
  /-- A failure of the channel is passed on. -/
  raised : ∀ (k : Nat) e, (∀ j < k, Fruitless (f j)) → f k = .error e → k < attempts → r = .error e
  /-- The budget is spent if all replies within it are in vain. -/
  spent : (∀ j : Nat, j < attempts → Fruitless (f j)) →
    (t.requests.length : Int) = max attempts 0 ∧ r = .ok none

section Fetched

variable {f : Nat → Except Failure Response} {attempts interval : Int} {t : Dialogue}
  {r : Except Failure (Option (List Record))} {n k : Nat} {reply : Except Failure Response}

theorem Concludes.not_fruitless (h : Concludes reply r) : ¬Fruitless reply := by
  cases h with
  | lost e => exact not_fruitless_error e
  | given hlists =>
    rintro ⟨response, heq, hnone⟩
    cases heq
    exact hnone _ hlists

/-- The first reply that is not in vain is in one place only. -/
theorem eq_of_first (hn : ∀ j < n, Fruitless (f j)) (hfn : ¬Fruitless (f n))
    (hk : ∀ j < k, Fruitless (f j)) (hfk : ¬Fruitless (f k)) : k = n := by
  rcases Nat.lt_trichotomy k n with hlt | heq | hlt
  · exact absurd (hn k hlt) hfk
  · exact heq
  · exact absurd (hk n hlt) hfn

/-- The requests to no avail have been answered by the script. -/
theorem Tried.fruitless_of_scripted {asked : List Ask} (h : Tried asked n t)
    (hscript : ∀ i reply, t.responses[i]? = some reply → reply = f i) :
    ∀ j < n, Fruitless (f j) := by
  intro j hj
  have hlength : j < t.responses.length := by rwa [h.count]
  rw [← hscript j _ (List.getElem?_eq_getElem hlength)]
  exact h.fruitless _ (List.getElem_mem hlength)

/-- A query that a request concludes. -/
theorem fetched_concluded (hn : n < attempts.toNat) (ht : Tried (leading interval n) n t)
    (hr : Concludes (f n) r) (hbefore : ∀ j < n, Fruitless (f j)) :
    Fetched f attempts interval (t ++ [⟨listing, f n⟩]) r := by
  have hcount : (Dialogue.requests (t ++ [⟨listing, f n⟩])).length = n + 1 := by
    rw [Dialogue.length_requests]
    simp [Answer.response?, ht.count]
  have hfn := hr.not_fruitless
  -- The reply that concluded the query is the first one that can, so any such one is this one.
  refine ⟨?pauses, ?count, ?given, ?raised, ?spent⟩
  case pauses =>
    rw [hcount, Dialogue.pauses_append, ht.pauses]
    exact (rounds_succ interval n).symm
  case count =>
    intro k hk hfk
    obtain rfl := eq_of_first hbefore hfn hk hfk
    rw [hcount]
    omega
  case given =>
    intro k response entries hk hreply hlists _
    have hfk : ¬Fruitless (f k) := by
      rw [hreply]
      exact (Concludes.given hlists).not_fruitless
    obtain rfl := eq_of_first hbefore hfn hk hfk
    rw [hreply] at hr
    cases hr with
    | given hothers =>
      obtain rfl := hlists.unique hothers
      exact ⟨_, rfl, forall₂_describes entries⟩
  case raised =>
    intro k e hk hreply _
    have hfk : ¬Fruitless (f k) := by
      rw [hreply]
      exact not_fruitless_error e
    obtain rfl := eq_of_first hbefore hfn hk hfk
    rw [hreply] at hr
    cases hr
    rfl
  case spent =>
    intro hall
    exact absurd (hall n (by omega)) hfn

/-- A query that spends its budget. -/
theorem fetched_spent (ht : Tried (rounds interval attempts.toNat) attempts.toNat t)
    (hbefore : ∀ j < attempts.toNat, Fruitless (f j)) :
    Fetched f attempts interval t (.ok none) := by
  have hcount : t.requests.length = attempts.toNat := by rw [Dialogue.length_requests, ht.count]
  -- A reply that would conclude the query comes after all that were asked for.
  have hlate : ∀ k : Nat, ¬Fruitless (f k) → ¬(k : Int) < attempts := by
    intro k hfk hk
    exact hfk (hbefore k (by omega))
  refine ⟨?pauses, ?count, ?given, ?raised, ?spent⟩
  case pauses =>
    rw [hcount]
    exact ht.pauses
  case count =>
    intro k _ hfk
    have hk := hlate k hfk
    rw [hcount]
    omega
  case given =>
    intro k response entries _ hreply hlists hk
    refine absurd hk (hlate k ?_)
    rw [hreply]
    exact (Concludes.given hlists).not_fruitless
  case raised =>
    intro k e _ hreply hk
    refine absurd hk (hlate k ?_)
    rw [hreply]
    exact not_fruitless_error e
  case spent =>
    intro _
    rw [hcount]
    exact ⟨by omega, rfl⟩

/-- A query that is answered by a script. -/
theorem Ended.fetched (h : Ended interval attempts.toNat t r) (hscript : Scripted f t) :
    Fetched f attempts interval t r := by
  cases h with
  | @concluded t n reply r hn ht hr =>
    -- The last reply is the one after those that were of no use.
    have hlast : reply = f n := by
      apply hscript.responses n
      rw [Dialogue.responses_append, List.getElem?_append_right (Nat.le_of_eq ht.count), ht.count,
        Nat.sub_self]
      rfl
    subst hlast
    refine fetched_concluded hn ht hr (ht.fruitless_of_scripted ?_)
    intro i reply hreply
    apply hscript.responses i
    have hi := (List.getElem?_eq_some_iff.1 hreply).1
    rwa [Dialogue.responses_append, List.getElem?_append_left hi]
  | stalled n e ht =>
    -- Waiting does not fail here.
    have hwait := hscript.waits interval (.error e) (List.mem_append_right _ List.mem_cons_self)
    cases hwait
  | spent ht => exact fetched_spent ht (ht.fruitless_of_scripted hscript.responses)

end Fetched

section Flaky

/-- An entry with a root, and a fingerprint under its older name. -/
def arcadeEntry : Value := .map [(.str "root", .str "/work/Arcade"), (.str "vcs_hash", .str "f1")]

/-- The first request is refused, the second one is answered without a list, and the third one with
a list in which two entries are of no use. The channel is closed after that. -/
def flaky : Nat → Except Failure Response
  | 0 => .ok { ok := false }
  | 1 => .ok { ok := true, result := [(.str "projects", .bool true)] }
  | 2 => .ok {
      ok := true,
      result := [(.str "projects", .tuple [.null, .map [(.str "root", .str "")], arcadeEntry])] }
  | _ => .error (.raised "connection lost")

end Flaky

end Registry

end IndexSync
