import IndexSync.Proofs.Replies
import IndexSync.Rpc.Channel

/-!
# Requests over a socket

Every stage of a request over a socket can fail by itself: the connection, the look-up of the
method, the call. Whatever fails, what was opened is closed, and the caller gets a response if what
was thrown is an error. It gets none if that tells of the end of an iteration, and an exit or an
interrupt passes it by.

* `Channel.Conduct.thrown?` — what is thrown at some stage;
* `Channel.Honours` — what a channel does for its callers, for a conduct of the other end;
* `Channel.deliver_honours` — requests over a socket go that way, whatever the other end does.
-/

namespace IndexSync.Channel

namespace Conduct

/-- The connection is established. -/
def isOpen : Conduct → Bool
  | .unreachable _ => false
  | _ => true

/-- The method is there to be called. -/
def isCalled : Conduct → Bool
  | .unreachable _ => false
  | .unknown _ => false
  | _ => true

/-- What is thrown at some stage. -/
def thrown? : Conduct → Option Thrown
  | .unreachable e => some e
  | .unknown e => some e
  | .raises e => some e
  | .returns _ => none

/-- The log records that tell of a failure. Only errors are told of. -/
def reports (name : String) (c : Conduct) : Trace :=
  (c.thrown?.toList.filter fun e => e.rank == .error).map fun e => lost name e.text

/-- A method returns, or something is thrown. -/
theorem returns_or_throws (c : Conduct) : (∃ v, c = .returns v) ∨ ∃ e, c.thrown? = some e := by
  cases c with
  | returns v => exact Or.inl ⟨v, rfl⟩
  | _ => exact Or.inr ⟨_, rfl⟩

end Conduct

/-- A request was handled as its caller may rely on, for what the other end did. -/
structure Honours (path : FsPath) (timeout : Option Seconds) (name : String) (params : Options)
    (c : Conduct) (trace : Trace) (delivery : Delivery) : Prop where
  /-- There is one attempt to connect, then at most one call, and what was opened is closed after
  that. An error is only recorded. -/
  steps : trace =
    .connect path.text true timeout ::
      ((if c.isCalled then [.request name params] else []) ++
        (if c.isOpen then [.disconnect] else []) ++ c.reports name)
  /-- There is a response unless something was thrown that is no error. -/
  answers : (∃ response, delivery = .answered response) ↔
    ∀ e, c.thrown? = some e → e.rank = .error
  /-- The caller waits for ever exactly if it would have to be told the end of an iteration. -/
  pends : delivery = .pending ↔ ∃ e, c.thrown? = some e ∧ e.rank = .exhaustion
  /-- Exits and interrupts pass, and nothing else does. -/
  escapes : ∀ e, delivery = .escapes e ↔ c.thrown? = some e ∧ e.rank = .stop
  /-- The response to an error is no success and carries its text. -/
  fails : ∀ e, c.thrown? = some e → e.rank = .error → delivery = .answered (.failure e.text)
  /-- The response to a call that returns is read off the copy of the value. -/
  returns : ∀ v, c = .returns v → delivery = .answered (.ofValue v.plain)
  /-- A success is what the copy of a value says it is. -/
  succeeds : ∀ response, delivery = .answered response →
    (response.ok = true ↔ ∃ v, c = .returns v ∧ Response.Affirms v.plain)
  /-- That is what the value itself says if it is made of mappings, sequences and scalars. -/
  means : ∀ v response, c = .returns v → v.Built → delivery = .answered response →
    (response.ok = true ↔ Response.Affirms v)

section Deliver

variable (path : FsPath) (timeout : Option Seconds) (name : String) (params : Options)

/-- What is done for a request over a socket. -/
theorem deliver_fst (c : Conduct) :
    (deliver path timeout name params c).1 =
      .connect path.text true timeout ::
        ((if c.isCalled then [.request name params] else []) ++
          (if c.isOpen then [.disconnect] else []) ++ c.reports name) := by
  cases c with
  | returns v => rfl
  | unreachable e | unknown e | raises e => obtain ⟨rank, text⟩ := e; cases rank <;> rfl

/-- How a request ends whose call returns. -/
theorem deliver_returns (v : Value) :
    (deliver path timeout name params (.returns v)).2 = .answered (.ofValue v.plain) := rfl

/-- How a request ends in which something is thrown, at whatever stage. -/
theorem deliver_of_thrown {c : Conduct} {e : Thrown} (h : c.thrown? = some e) :
    (deliver path timeout name params c).2 =
      match e.rank with
      | .error => .answered (.failure e.text)
      | .exhaustion => .pending
      | .stop => .escapes e := by
  cases c with
  | returns v => cases h
  | unreachable e' | unknown e' | raises e' =>
    obtain rfl := Option.some.inj h
    obtain ⟨rank, text⟩ := e'
    cases rank <;> rfl

/-- A request to a service goes the way of what the service does with it. -/
theorem exchange_eq (r : Remote) :
    exchange path timeout r name params =
      let c := (Conduct.ofRemote r name).1
      ⟨(deliver path timeout name params c).1, (deliver path timeout name params c).2,
        (Conduct.ofRemote r name).2⟩ := rfl

end Deliver

/-- Requests over a socket are handled like this, whatever the other end does. -/
theorem deliver_honours (path : FsPath) (timeout : Option Seconds) (name : String)
    (params : Options) (c : Conduct) :
    Honours path timeout name params c (deliver path timeout name params c).1
      (deliver path timeout name params c).2 := by
  rw [deliver_fst]
  rcases c.returns_or_throws with ⟨v, rfl⟩ | ⟨e, he⟩
  · rw [deliver_returns]
    have hok : (Response.ofValue v.plain).ok = true ↔ Response.Affirms v.plain :=
      Response.ok_ofValue
    refine ⟨rfl, ?_, ?_, ?_, ?_, ?_, ?_, ?_⟩
    · exact iff_of_true ⟨_, rfl⟩ fun e he => nomatch he
    · exact iff_of_false (fun h => nomatch h) fun ⟨e, he, _⟩ => nomatch he
    · exact fun e => iff_of_false (fun h => nomatch h) fun he => nomatch he.1
    · exact fun e he => nomatch he
    · rintro _ ⟨⟩
      rfl
    · rintro _ ⟨⟩
      simpa using hok
    · rintro _ _ ⟨⟩ hbuilt ⟨⟩
      exact Response.ok_ofValue_plain hbuilt
  · have hnever : ∀ v, c ≠ .returns v := by
      rintro v rfl
      cases he
    rw [deliver_of_thrown path timeout name params he]
    -- The three ranks part ways only when they are handed over.
    cases hrank : e.rank with
    | error => constructor <;> simp [he, hrank, hnever, Response.failure]
    | exhaustion => constructor <;> simp [he, hrank, hnever]
    | stop =>
      have hself : ∀ e', e = e' → e'.rank = .stop := by
        rintro _ rfl
        exact hrank
      constructor <;> simp [he, hrank, hnever, and_iff_left_of_imp (hself _)]

/-- A mapping has nothing at a word, but a path for a key that becomes the word in the copy. -/
example : ¬Response.Affirms (.map [(.path ⟨.relative, ["ok"]⟩, .bool true)]) ∧
    Response.Affirms (Value.map [(.path ⟨.relative, ["ok"]⟩, .bool true)]).plain := by
  rw [← Response.ok_ofValue, ← Response.ok_ofValue]
  decide

end IndexSync.Channel
