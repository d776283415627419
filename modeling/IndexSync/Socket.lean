import IndexSync.Host.Basic

/-!
# The socket of the service

One service serves every project of a user, so its socket has a fixed place per user: a directory
that only the user can enter. A probe can always make a socket of its own to connect with.
-/

namespace IndexSync.Socket

/-- The name of the socket. -/
def fileName : String := "index-service.sock"

/-- The permissions of the directory that holds the socket. -/
def dirMode : Nat := 0o700

/-- The directory that holds the socket: in the user's runtime directory if there is one, else
among the temporary files. -/
def directory (h : Host) : FsPath :=
  let temporary : FsPath := ⟨.root, ["tmp", "index-bootstrap-" ++ toString h.uid]⟩
  match h.env.get? "XDG_RUNTIME_DIR" with
  | some dir => if dir = "" then temporary else (FsPath.parse dir).child "index-bootstrap"
  | none => temporary

/-- Restrict a directory to the user. A directory of someone else is left as it is. -/
def restrict (h : Host) (dir : FsPath) : Except Failure Unit × Host :=
  match h.chmod dir dirMode with
  | .ok h => (.ok (), h)
  | .error (.system errno file) =>
    (if errno.isDenial then .ok () else .error (.system errno file), h)
  | .error e => (.error e, h)

/-- Make a directory that only the user can enter. -/
def ensureDirectory (h : Host) (dir : FsPath) : Except Failure Unit × Host :=
  match h.mkdirs dir dirMode with
  | (.ok (), h) => restrict h dir
  | failed => failed

/-- The path of the socket: the given one, or the usual one, whose directory is made. -/
def path (h : Host) : Option FsPath → Except Failure FsPath × Host
  | some p => (.ok p, h)
  | none =>
    let dir := directory h
    match ensureDirectory h dir with
    | (.ok (), h) => (.ok (dir.child fileName), h)
    | (.error e, h) => (.error e, h)

/-- Seconds that a liveness probe waits unless told otherwise. -/
def probeTimeout : Seconds := .measured (.ofFraction false 1 10)

/-- Whether someone accepts connections at a path, within a time limit if there is one. -/
def isAlive (h : Host) (p : FsPath) (timeout : Option Seconds) : Traced Bool := do
  if ← .ofExcept (h.exists? p) then
    Traced.emit (.socketTimeout timeout)
    Traced.emit (.socketConnect p.text)
    Traced.emit .socketClose
    return h.accepts p
  else return false

/-- Remove a socket that nobody listens at. A socket that cannot be removed stays. -/
def cleanUp (h : Host) (p : FsPath) : Except Failure Unit × Host :=
  match h.unlink p with
  | .ok h => (.ok (), h)
  | .error (.system _ _) => (.ok (), h)
  | .error e => (.error e, h)

end IndexSync.Socket
