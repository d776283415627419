import IndexSync.Config.Check
import IndexSync.Json.Printer
import IndexSync.Json.Reader

/-!
# Configuration files

Loading and saving a configuration, and finding the file of a directory: the nearest one in the
directory or above it.
-/

namespace IndexSync

namespace Config

/-- The name of the directory that holds a configuration file. -/
def dirName : String := ".index-bootstrap"

/-- The name of a configuration file. -/
def fileName : String := "config.json"

/-- The configuration file of a directory. -/
def fileIn (dir : FsPath) : FsPath := (dir.child dirName).child fileName

/-- Both ways of ending a line by a carriage return are read as a line feed. -/
def unifyLines : List Char → List Char
  | '\r' :: '\n' :: rest => '\n' :: unifyLines rest
  | '\r' :: rest => '\n' :: unifyLines rest
  | c :: rest => c :: unifyLines rest
  | [] => []

/-- The text of a configuration file. -/
def decodeFile (data : List UInt8) : Except LoadFault String :=
  match Text.Utf8.decode data with
  | .ok s => .ok (String.ofList (unifyLines s.toList))
  | .error e => .error (.undecodable e)

/-- The text of the file at a path. -/
def fileText (h : Host) (file : FsPath) : Except Failure String := do
  match decodeFile (← h.readFile file) with
  | .ok text => return text
  | .error fault => throw (.loadFailed file.text fault)

/-- The configuration that a document describes. -/
def ofDocument (home : Option FsPath) : Value → Except LoadFault Config
  | .map data =>
    match ofEntries home data with
    | .ok c => .ok c
    | .error .homeUnknown => .error .homeUnknown
    | .error (.invalid vs) => .error (.invalid vs)
  | v => .error (.notMapping v.typeName)

/-- The configuration in the bytes of a file. -/
def parse (home : Option FsPath) (data : List UInt8) : Except LoadFault Config := do
  let text ← decodeFile data
  match Json.read text with
  | .ok doc => ofDocument home doc
  | .error e => throw (.malformed text e)

/-- The configuration without any file. -/
def default (home : Option FsPath) : Except Failure Config :=
  (ofEntries home []).mapError Refusal.failure

/-- Load the configuration at a path; without a file there, the defaults are used. -/
def load (h : Host) (file : FsPath) : Traced Config := do
  if ← .ofExcept (h.exists? file) then
    match h.readFile file with
    | .ok data =>
      match parse h.home? data with
      | .ok c => return c
      | .error fault => .fail (.loadFailed file.text fault)
    | .error (.system errno path) =>
      .fail (.loadFailed file.text (.unreadable errno (path.getD file.text)))
    | .error e => .fail e
  else
    Traced.emit (logged .debug .config ("No config at " ++ file.text ++ ", using defaults"))
    -- The defaults themselves need a home directory.
    .ofExcept (default h.home?)

/-- The bytes of a configuration file. -/
def fileBytes (c : Config) : List UInt8 := Text.Utf8.encode (Json.pretty c.toValue)

/-- Save a configuration at a path, making missing directories, which remain if the file cannot be
written. -/
def save (h : Host) (file : FsPath) (c : Config) : Except Failure Unit × Host :=
  match h.mkdirs file.parent Node.dirMode with
  | (.ok (), h) => h.after (h.writeFile file c.fileBytes)
  | failed => failed

/-- The first path that exists. -/
def firstExisting (h : Host) : List FsPath → Except Failure (Option FsPath)
  | [] => .ok none
  | p :: ps => do if ← h.exists? p then return some p else firstExisting h ps

/-- The nearest configuration file in a directory or above it. -/
def findFrom (h : Host) (start : FsPath) : Except Failure (Option FsPath) :=
  firstExisting h (start.chain.map fileIn)

/-- The nearest configuration file in a directory, by default the working directory, or above it.
A deleted working directory has none. -/
def find (h : Host) : Option FsPath → Except Failure (Option FsPath)
  | some start => findFrom h start
  | none =>
    match h.workingDirectory with
    | .ok dir => findFrom h dir
    | .error _ => .ok none

end Config

/-- A configuration file and the configuration last loaded from it or saved to it. -/
structure ConfigStore where
  /-- The file. -/
  file : FsPath
  /-- The configuration. -/
  current : Option Config := none

namespace ConfigStore

/-- The file that is used if none is named. -/
def defaultFile : FsPath := ⟨.relative, [Config.dirName, Config.fileName]⟩

/-- The store of a file, by default the one in the working directory. -/
def ofFile? (file : Option FsPath) : ConfigStore := ⟨file.getD defaultFile, none⟩

/-- The store of the nearest file, or of a new file in the directory itself. -/
def nearest (h : Host) (start : Option FsPath) : Except Failure ConfigStore := do
  match ← Config.find h start with
  | some file => return ⟨file, none⟩
  | none =>
    let dir ← match start with
      | some dir => pure dir
      | none => h.workingDirectory
    return ⟨Config.fileIn dir, none⟩

/-- Load the configuration and remember it. A failure leaves the store as it was. -/
def load (store : ConfigStore) (h : Host) : Traced Config × ConfigStore :=
  let r := Config.load h store.file
  match r.outcome with
  | .ok c => (r, { store with current := some c })
  | .error _ => (r, store)

/-- Save a configuration, or the remembered one, and remember it. -/
def save (store : ConfigStore) (h : Host) (config : Option Config) :
    Except Failure Unit × Host × ConfigStore :=
  match config.or store.current with
  | none => (.error .nothingToSave, h, store)
  | some c =>
    match Config.save h store.file c with
    | (.ok (), h) => (.ok (), h, { store with current := some c })
    | (.error e, h) => (.error e, h, store)

end ConfigStore

end IndexSync
