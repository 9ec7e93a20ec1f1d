import Converge.Cli.Run
import Converge.Process.Hosting
import Converge.Provider.Control
import Converge.Tool.Programs
import Std.Time.DateTime.Timestamp

set_option autoImplicit false

namespace Converge.Picture

def namesIn? (path : String) : IO (Option (List String)) := do
  try
    let real ← IO.FS.realPath path
    return some ((← real.readDir).toList.map (·.fileName))
  catch _ => return none

-- What stands at a path of the host, with links followed. Scripts count as executable.
def nodeAt? (path : String) : IO (Option Node) := do
  try
    let real ← IO.FS.realPath path
    if ← real.isDir then return some (.directory (← namesIn? path).isSome)
    else return some (.file (← IO.FS.readBinFile real).toList true)
  catch _ => return none

def add (files : FileSystem) (paths : List OsString) : IO FileSystem :=
  paths.foldlM (fun files path => do
    match ← nodeAt? path.text with
    | some node => return (files.place path node).toOption.getD files
    | none => return files) files

def addDirectory (files : FileSystem) (path : OsString) : IO FileSystem := do
  let names := (← namesIn? path.text).getD []
  add files (path :: names.map fun name => Path.join path (.ofText name))

-- The directories that a run with these settings looks into.
def directories (settings : Settings) : List OsString :=
  settings.paths.initDir :: BootLink.runlevels.map (BootLink.directory settings.paths.rcRoot)

-- The files that a run with these settings looks at.
def files (settings : Settings) : List OsString :=
  settings.node.attributesFile.toList ++ Recipe.services.map settings.paths.initScript ++
    [settings.paths.osRelease, settings.report.path] ++ (Path.parent? settings.report.path).toList

-- The files that a run with these options may look at.
def take (options : Cli.Options) : IO FileSystem := do
  let nodes := Tool.Installation.nodes
  let here := Path.steps (← IO.currentDir).toString
  let start ← add { nodes := nodes, workingDirectory := here }
    [options.config.getD Cli.defaultConfig]
  match Cli.loadSettings start options.config with
  | .error _ => return start
  | .ok settings => (directories settings).foldlM addDirectory (← add start (files settings))

def pathOf (place : Location) : String :=
  "/" ++ String.intercalate "/" (place.map OsString.text)

-- Makes the host as the picture is: first directories, from the top, then files.
def carryOut (before after : FileSystem) : IO Unit := do
  let changed := after.nodes.filter fun entry => before.find? entry.1 ≠ some entry.2
  for (place, node) in changed.mergeSort fun a b => decide (a.1.length ≤ b.1.length) do
    match node with
    | .directory _ => IO.FS.createDirAll (pathOf place)
    | .file content _ => IO.FS.writeBinFile (pathOf place) ⟨content.toArray⟩
    | _ => pure ()
  for (place, node) in before.nodes do
    match node, after.find? place with
    | .file _ _, none => IO.FS.removeFile (pathOf place)
    | _, _ => pure ()

end Converge.Picture

namespace Converge.Cli

def surroundings : IO (List (String × String)) := do
  return [("PATH", (← IO.getEnv "PATH").getD "/usr/bin:/bin"), ("PWD", "/")]

-- A run of the program with these words behind its name.
def perform (args : List String) : IO (Conclusion Process.Machine) := do
  let words := programName :: args
  let files ← Picture.take (Options.parse words)
  let now := (← Std.Time.Timestamp.now).toNanosecondsSinceUnixEpoch.val.toNat
  let bits := (← IO.getRandomBytes 16).toList.foldl (fun n octet => n * 256 + octet.toNat) 0
  let context : Context := { logFilter := ← IO.getEnv "RUST_LOG", runId := .ofNat bits }
  let processes := Process.Machine.processes (Tool.programs []) (← surroundings)
  let conclusion := run context (Execution.run processes) words
    { files := files, clock := ← IO.monoNanosNow, wall := now, rest := .idle }
  Picture.carryOut files conclusion.host.files
  return conclusion

end Converge.Cli

/-- Runs on a picture of the files that a run may look at, says what there is to say, and carries out
on the host what changed in the picture. -/
def main (args : List String) : IO UInt32 := do
  let conclusion ← Converge.Cli.perform args
  let output ← IO.getStdout
  output.putStr conclusion.output
  output.flush
  (← IO.getStderr).putStr conclusion.stderr
  return conclusion.status.toUInt32
