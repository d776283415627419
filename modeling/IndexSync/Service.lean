import IndexSync.Socket

/-!
# The service process

A handle that makes sure that the service is running. It starts a process only if nobody listens at
the socket and the process it started last is not running, and it does not wait for the service to
become ready.
-/

namespace IndexSync

/-- A handle on the service. -/
structure Service where
  /-- The command that starts the service, with a placeholder for the socket. -/
  command : List String
  /-- The socket the service listens at. -/
  socket : FsPath
  /-- The process started last. -/
  process : Option Processes.Index := none
  deriving Repr

namespace Service

/-- The placeholder for the socket in a command. -/
def placeholder : List Char := "\x7bsocket\x7d".toList

/-- The text with every placeholder replaced, from left to right. The first argument counts the
characters of a placeholder that are still to be skipped. -/
def fillFrom (replacement : List Char) : Nat → List Char → List Char
  | _, [] => []
  | skip + 1, _ :: rest => fillFrom replacement skip rest
  | 0, c :: rest =>
    if placeholder.isPrefixOf (c :: rest) then
      replacement ++ fillFrom replacement (placeholder.length - 1) rest
    else c :: fillFrom replacement 0 rest

/-- A word of the command with the socket filled in. -/
def fill (socket word : String) : String :=
  String.ofList (fillFrom socket.toList 0 word.toList)

/-- The command with the socket filled in. -/
def fullCommand (s : Service) : List String := s.command.map (fill s.socket.text)

/-- The process started last is running. -/
def processAlive (s : Service) (h : Host) : Bool :=
  match s.process with
  | some i => h.processes.isRunning i
  | none => false

/-- The output of the service is discarded, and it outlives the terminal. -/
def mode : LaunchMode := ⟨true, true, true⟩

/-- How an attempt to have the service running ended. -/
structure Start where
  /-- What was done. -/
  trace : Trace
  /-- How it ended. -/
  outcome : Except Failure Unit
  /-- The handle afterwards. -/
  service : Service
  /-- The host afterwards. -/
  host : Host

/-- Start the process of the service. If that fails, the process started before is remembered. -/
def launch (s : Service) (h : Host) (trace : Trace) : Start :=
  let command := s.fullCommand
  let trace := trace ++ [.launch command mode]
  let (result, processes) := h.processes.launch
  let h := { h with processes }
  match result with
  | .ok i =>
    let text := "Started index service (pid " ++ toString (h.pid + 1 + i) ++ ")"
    ⟨trace ++ [logged .info .service text], .ok (), { s with process := some i }, h⟩
  | .error errno =>
    let text := "Failed to start index service with " ++ CommandOutcome.commandText command ++ ": "
      ++ errno.message command.head?
    ⟨trace ++ [logged .warning .service text], .ok (), s, h⟩

/-- Remove a socket that nobody listens at, then start the process of the service. -/
def relaunch (s : Service) (h : Host) (trace : Trace) : Start :=
  match h.exists? s.socket with
  | .error e => ⟨trace, .error e, s, h⟩
  | .ok false => s.launch h trace
  | .ok true =>
    match Socket.cleanUp h s.socket with
    | (.ok (), h) => s.launch h trace
    | (.error e, h) => ⟨trace, .error e, s, h⟩

/-- Have the service running: start it unless it is listening or starting. -/
def ensureStarted (s : Service) (h : Host) : Start :=
  let probe := Socket.isAlive h s.socket (some Socket.probeTimeout)
  match probe.outcome with
  | .error e => ⟨probe.trace, .error e, s, h⟩
  | .ok true =>
    let text := "Index service already listening on " ++ s.socket.text
    ⟨probe.trace ++ [logged .debug .service text], .ok (), s, h⟩
  | .ok false =>
    -- A process that was started is given time to open its socket.
    if s.processAlive h then
      let text := "Index service process already spawned, waiting for socket"
      ⟨probe.trace ++ [logged .debug .service text], .ok (), s, h⟩
    else s.relaunch h probe.trace

end Service

end IndexSync
