import IndexSync.Scene

/-!
# Sessions

How a scene is set up for a configuration. In a standalone session the program uses its own
scheduler and reaches the service over its socket; in a hosted session the host provides these.
-/

namespace IndexSync.Session

/-- What a host provides. -/
structure Hosting where
  /-- Where the user is. -/
  whereabouts : Whereabouts
  /-- Where fingerprints come from. -/
  fingerprints : FingerprintSource
  /-- The actions the host does itself, and what it does for them. -/
  performances : List (Action × Performance) := []
  /-- Who starts tasks and waits. -/
  scheduling : Scheduling := .byHost
  /-- Whether letter case distinguishes roots, if the host says so. -/
  caseSensitive : Option Bool := none

/-- The scene of a hosted session. -/
def hosted (config : Config) (h : Host) (remote : Remote) (hosting : Hosting) : Scene :=
  { setup :=
      { config
        caseRule := .choose h.platform hosting.caseSensitive
        pid := h.pid
        crew := hosting.performances.map Prod.fst }
    world :=
      { host := h
        remote
        whereabouts := hosting.whereabouts
        patterns := config.project.patterns
        minSize := config.index.minSize
        fingerprints := hosting.fingerprints
        performances := hosting.performances
        scheduling := hosting.scheduling } }

/-- The scene of a standalone session, whose socket is at a path. -/
def standaloneAt (config : Config) (h : Host) (remote : Remote) (whereabouts : Whereabouts)
    (socket : FsPath) : Scene :=
  { setup := { config, caseRule := .ofPlatform h.platform, pid := h.pid }
    world :=
      { host := h
        remote
        channel := .overSocket socket (config.service.timeout.map .measured)
        whereabouts
        patterns := config.project.patterns
        minSize := config.index.minSize
        scheduling := .own
        starter := .handle { command := config.service.command, socket } } }

/-- The scene of a standalone session. The directory of the socket is made unless the configuration
names a socket. -/
def standalone (config : Config) (h : Host) (remote : Remote) (whereabouts : Whereabouts) :
    Except Failure Scene :=
  match Socket.path h config.service.socket with
  | (.ok socket, h) => .ok (standaloneAt config h remote whereabouts socket)
  | (.error e, _) => .error e

end IndexSync.Session
