import IndexSync.Event
import IndexSync.Rpc.Remote
import IndexSync.Rpc.Response

/-!
# Channels to the service

A request goes to the service either directly or over its socket. Over the socket every request has
a connection of its own, which is closed whatever happens; the reply is copied before that, so that
nothing outlives the connection, and every error comes back as a response. What is thrown and is no
error does not: it passes, or it leaves the one who waits without a reply. Copying a reply does not
fail, however deep it is.
-/

namespace IndexSync

/-- Seconds that a response over a socket is waited for unless told otherwise. -/
def defaultTimeout : Seconds := .measured (.ofFraction false 30 1)

/-- How requests reach the service. -/
inductive Channel where
  /-- The host hands requests to the service. -/
  | direct
  /-- Requests go over the socket at a path, with a time limit in seconds. -/
  | overSocket (path : FsPath) (timeout : Option Seconds)
  deriving DecidableEq, Repr

/-- The outcome of a request, with what was done for it and the service afterwards. -/
structure Exchange (α : Type) where
  /-- What was done. -/
  trace : Trace
  /-- How it ended. -/
  outcome : α
  /-- The service afterwards. -/
  remote : Remote

namespace Channel

/-- The response to a request that the host hands over. -/
def respond (name : String) : Option Reaction → Except Failure Response
  | none => .ok (.failure ("no reply scripted for " ++ name))
  | some (.refuse text) => .ok (.failure text)
  | some (.crash text) => .error (.raised text)
  | some (.reply v) => .ok (.ofValue v)

/-- Have a request of the host answered. -/
def answerDirect (r : Remote) (name : String) : Exchange (Except Failure Response) :=
  let (reaction, r) := r.react name
  ⟨[], respond name reaction, r⟩

/-- How far an exception gets, which its class decides. -/
inductive Rank where
  /-- It is an error, and is handled as one. -/
  | error
  /-- It tells that an iteration is over. A task cannot be handed it by another thread, so the task
  waits for ever. -/
  | exhaustion
  /-- It asks the program to stop, by an exit or an interrupt, and is not handled as an error. -/
  | stop
  deriving DecidableEq, Repr

/-- An exception. -/
structure Thrown where
  /-- How far it gets. -/
  rank : Rank
  /-- What it says. -/
  text : String
  deriving DecidableEq, Repr

/-- What the other end does with a request that comes on a connection of its own. -/
inductive Conduct where
  /-- It cannot be connected to. -/
  | unreachable (e : Thrown)
  /-- It does not have the method. -/
  | unknown (e : Thrown)
  /-- The method fails. -/
  | raises (e : Thrown)
  /-- The method returns. -/
  | returns (v : Value)

namespace Conduct

/-- Open a connection. -/
def connect : Conduct → Except Thrown Unit
  | .unreachable e => .error e
  | _ => .ok ()

/-- Look up the method. -/
def lookUp : Conduct → Except Thrown Unit
  | .unknown e => .error e
  | _ => .ok ()

/-- Call the method. -/
def call : Conduct → Except Thrown Value
  | .unreachable e => .error e
  | .unknown e => .error e
  | .raises e => .error e
  | .returns v => .ok v

/-- What a service does with a method call, from its reaction. -/
def ofReaction (name : String) : Option Reaction → Conduct
  | none => .unknown ⟨.error, Remote.absence name⟩
  | some (.reply v) => .returns v
  | some (.refuse text) => .raises ⟨.error, text⟩
  | some (.crash text) => .raises ⟨.error, text⟩

/-- The request that a connection makes before any other. -/
def connecting : String := "connect"

/-- What a service does with a request, with the service afterwards. -/
def ofRemote (r : Remote) (name : String) : Conduct × Remote :=
  match r.react connecting with
  | (some (.crash text), r) => (.unreachable ⟨.error, text⟩, r)
  | (_, r) =>
    let (reaction, r) := r.react name
    (ofReaction name reaction, r)

end Conduct

/-- How a request over a socket ends for the task that waits for it. -/
inductive Delivery where
  /-- There is a response. -/
  | answered (response : Response)
  /-- An exception passes. -/
  | escapes (e : Thrown)
  /-- The task waits for ever. -/
  | pending

/-- What the task is told, if it is told anything. -/
def Delivery.reply? : Delivery → Option (Except Failure Response)
  | .answered response => some (.ok response)
  | .escapes e => some (.error (.raised e.text))
  | .pending => none

section Socket

variable (path : FsPath) (timeout : Option Seconds) (name : String) (params : Options)

/-- Call a method over an open connection. The value it returns is copied. -/
def invoke (c : Conduct) : Trace × Except Thrown Response :=
  match c.lookUp with
  | .error e => ([], .error e)
  | .ok () => ([.request name params], c.call.map fun v => .ofValue v.plain)

/-- Make a request on a connection of its own, in a thread that may be blocked. -/
def call (c : Conduct) : Trace × Except Thrown Response :=
  let opening : Trace := [.connect path.text true timeout]
  match c.connect with
  | .error e => (opening, .error e)
  | .ok () =>
    let (calls, result) := invoke name params c
    -- The connection is closed whatever has come of the call, and before that is reported.
    (opening ++ calls ++ [.disconnect], result)

/-- A request over the socket failed. -/
def lost (reason : String) : Event := logged .debug .rpc ("RPC " ++ name ++ " failed: " ++ reason)

/-- Hand what has come of a call to the task that waits for it. -/
def handOver : Except Thrown Response → Trace × Delivery
  | .ok response => ([], .answered response)
  | .error e =>
    match e.rank with
    | .error => ([lost name e.text], .answered (.failure e.text))
    | .exhaustion => ([], .pending)
    | .stop => ([], .escapes e)

/-- Make a request over a socket. -/
def deliver (c : Conduct) : Trace × Delivery :=
  let (trace, result) := call path timeout name params c
  let (report, delivery) := handOver name result
  (trace ++ report, delivery)

end Socket

/-- Make a request to a service over a socket. -/
def exchange (path : FsPath) (timeout : Option Seconds) (r : Remote) (name : String)
    (params : Options) : Exchange Delivery :=
  let (c, r) := Conduct.ofRemote r name
  let (trace, delivery) := deliver path timeout name params c
  ⟨trace, delivery, r⟩

end Channel

end IndexSync
