import IndexSync.Cli.Basic

/-!
# The executable

Takes a picture of the machine as far as the program looks at it, and runs the program on it: the
environment, the working directory, the directories above it with their entries, the configuration
files there and the files named on the command line. The picture holds no service, so that the
executable by itself never gets past probing for one.
-/

namespace IndexSync.Main

/-- The variables of the environment that the program reads. -/
def variableNames : List String :=
  ["HOME", "XDG_RUNTIME_DIR", Whereabouts.documentVariable, Git.countVariable]

/-- The environment. -/
def readEnv : IO Env :=
  variableNames.filterMapM fun name => do return (← IO.getEnv name).map (name, ·)

/-- Add a file with its content to a disk, if it can be read. -/
def addFile (cwd : FsPath) (d : Disk) (p : FsPath) : IO Disk := do
  let p := cwd.join p
  try
    let data ← IO.FS.readBinFile p.text
    return d.put p.names (.file (.bytes data.toList) Node.fileMode)
  catch _ => return d

/-- The deepest nesting of directories that is looked at. -/
def maxDepth : Nat := 256

/-- The entries of the working directory and of all directories above it. -/
def readChain : IO Disk := do
  let mut disk := Disk.empty
  let mut here := some (← IO.currentDir)
  for _ in [0:maxDepth] do
    if let some dir := here then
      for entry in ← dir.readDir do
        let names := (FsPath.parse entry.path.toString).names
        let info ← entry.path.metadata
        let node := if info.type == .dir then Node.dir Node.dirMode
          else Node.file (.zeros info.byteSize.toNat) Node.fileMode
        disk := disk.put names node
      here := dir.parent
  return disk

/-- The values that words of a command line may name a file by. -/
def namedFiles (args : List String) : List FsPath :=
  args.flatMap fun word => ((splitWord word) ++ [word]).map FsPath.parse
where
  /-- The part of a word after an equals sign. -/
  splitWord (word : String) : List String := (Cli.splitValue word.toList).2.toList

/-- Take a picture of the machine. -/
def readHost (args : List String) : IO Host := do
  let cwd := FsPath.parse (← IO.currentDir).toString
  let files := cwd.chain.map Config.fileIn ++ namedFiles args
  let disk ← files.foldlM (addFile cwd) (← readChain)
  return {
    disk
    faults := []
    cwd := some cwd.text
    env := ← readEnv
    uid := 0
    platform := "linux"
    pid := 0 }

end IndexSync.Main

/-- Run the program and print what it reports. -/
def main (args : List String) : IO UInt32 := do
  let report := IndexSync.Cli.run (← IndexSync.Main.readHost args) [] args
  IO.print report.out
  IO.eprint report.err
  if let some failure := report.failure then
    IO.eprintln failure.message
  return report.exitCode.toUInt32
