/-
The program: its command line on the system it runs on.  It reads and writes files there,
but has no means to start a compiler, so every run ends with that error.
-/
import Counterpart.Command.Dispatch
import Counterpart.History.File
import Counterpart.Machine
import Counterpart.Yaml.Plain

namespace Counterpart

/-- The result of an action, or a substitute if it fails. -/
def orElse (action : IO α) (substitute : α) : IO α := do
  try action catch _ => pure substitute

/-- The text of a record of the system, as far as it can be read. -/
def systemRecord? (path : String) : IO (Option (List Char)) :=
  orElse (do return some (← IO.FS.readFile path).toList) none

/-- The number of processors the program may use, from its affinity and its control groups. -/
def systemProcessors : IO Nat := do
  let status ← systemRecord? "/proc/self/status"
  let groups := (← systemRecord? "/proc/self/cgroup").elim [] Processors.groups
  let limits ← groups.mapM fun group =>
    systemRecord? ("/sys/fs/cgroup/" ++ String.ofList group ++ "/cpu.max")
  return Processors.available (status.bind Processors.allowed?)
    (limits.filterMap (·.bind Processors.quota?))

/-- What the system contributes to the defaults. -/
def systemSurroundings : IO Surroundings := do
  let values ← Config.compilerVariables.mapM fun name => do return (name, ← IO.getEnv name)
  return ⟨fun name => (values.lookup name).join, ← systemProcessors⟩

/-- The time by the system's clock, as it stamps a new file; the beginning of 1970 where it
makes no file. -/
def systemTime : IO Moment :=
  orElse (do
    let (_, path) ← IO.FS.createTempFile
    let stamp := (← path.metadata).modified
    IO.FS.removeFile path
    return ⟨stamp.sec, stamp.nsec.toNat⟩) ⟨0, 0⟩

/-- Whether the entry at a path is of a kind. -/
def hasKind (kind : IO.FS.FileType) (path : String) : IO Bool :=
  orElse (do
    let info ← ((← IO.currentDir) / path).metadata
    return info.type == kind) false

/-- The system as a host. -/
def systemHost : Host IO where
  read := fun path => orElse (do return some (← IO.FS.readBinFile path).toList) none
  isFile := hasKind .file
  isDirectory := hasKind .dir
  canonical := fun path => orElse (do return some (← IO.FS.realPath path).toString) none
  currentDirectory := do return (← IO.currentDir).toString
  write := fun path content =>
    orElse (do
      IO.FS.writeBinFile path ⟨content.toArray⟩
      return true) false
  readDatabase := fun path => do
    match ← orElse (do return some (← IO.FS.readBinFile path).toList) none with
    | none => return .ok none
    | some content => return (Database.ofBytes content).map some
  writeDatabase := fun path d =>
    orElse (do
      IO.FS.writeBinFile path ⟨d.toBytes.toArray⟩
      return true) false
  makeDirectories := fun path =>
    orElse (do
      IO.FS.createDirAll path
      return true) false
  print := fun text => do (← IO.getStdout).putStr text
  surroundings := systemSurroundings
  now := do return (← systemTime).text
  runPairs := fun config _ _ _ =>
    return .error (.toolchain (.spawn config.compiler "processes cannot be started from here"))

end Counterpart

def main (arguments : List String) : IO UInt32 := do
  let (code, message) ← Counterpart.systemHost.perform Counterpart.Yaml.reader arguments
  (← IO.getStderr).putStr message
  return UInt32.ofNat code
