/-
A bench for rehearsals.  It follows the scripts of the sources, keeps what was built, and
writes down what it was asked to do.
-/
import Counterpart.Exchange.Driver
import Counterpart.Path
import Counterpart.Rehearsal.Script

namespace Counterpart

/-- A request to the compiler. -/
inductive CompilerCall where
  | compile (job : CompileJob)
  | link (job : LinkJob)
  deriving DecidableEq, Repr

/-- What is prepared for a rehearsal, and what has happened in it. -/
structure Rehearsal where
  /-- The compiler by name, and its version or why it has none. -/
  compiler : String
  version : Except ToolchainError String
  /-- The directory in which all is built. -/
  workdir : String
  /-- What happens to the driver. -/
  driver : Script
  /-- The script of a source. -/
  script : String → Script
  files : List (String × String)
  objects : List (String × Script)
  programs : List (String × Script)
  /-- The programs that were run, once for each time. -/
  launches : List String
  /-- The latest request first. -/
  calls : List CompilerCall

namespace Rehearsal

/-- A rehearsal before its first step. -/
def start (compiler : String) (version : Except ToolchainError String) (workdir : String)
    (driver : Script) (script : String → Script) : Rehearsal :=
  ⟨compiler, version, workdir, driver, script, [], [], [], [], []⟩

/-- What stands for the work directory in scripted diagnostics. -/
def placeholder : List Char := "@WORKDIR@".toList

/-- The scripted diagnostics of a step whose result goes to a path. -/
def diagnostics (output text : String) : String :=
  let workdir := (Path.parent? output).getD ""
  String.ofList (Text.replace placeholder workdir.toList text.toList)

/-- The error of a step that a script lets fail. -/
def stepError (r : Rehearsal) (stage : Stage) (input output : String) :
    ScriptFault → ToolchainError
  | .spawn => .spawn r.compiler "scripted"
  | .stderr text =>
      .failed stage ((Path.fileName? input).getD input) (.code 1) (diagnostics output text)

/-- The script behind a source; the driver has one of its own. -/
def scriptOf (r : Rehearsal) (source : String) : Script :=
  if Path.fileName? source = some Driver.fileName then r.driver else r.script source

/-- The script behind the object of the variant, which is the last one linked. -/
def linked (r : Rehearsal) (job : LinkJob) : Script :=
  ((job.objects.getLast?).bind fun object => r.objects.lookup object).getD .plain

def compile (job : CompileJob) : StateM Rehearsal (Except ToolchainError Unit) := fun r =>
  let r := { r with calls := .compile job :: r.calls }
  let script := r.scriptOf job.source
  match script.compileFault with
  | some fault => (.error (r.stepError .compile job.source job.output fault), r)
  | none => (.ok (), { r with objects := (job.output, script) :: r.objects })

def link (job : LinkJob) : StateM Rehearsal (Except ToolchainError Unit) := fun r =>
  let r := { r with calls := .link job :: r.calls }
  let script := r.linked job
  match script.linkFault with
  | some fault => (.error (r.stepError .link job.output job.output fault), r)
  | none =>
      if script.isVanishing then (.ok (), r)
      else (.ok (), { r with programs := (job.output, script) :: r.programs })

def launch (program : String) (input : Bytes) (limits : Limits) :
    StateM Rehearsal (Except String Process) := fun r =>
  match r.programs.lookup program with
  | none => (.error "no such program", r)
  | some script =>
      let run := script.nth (r.launches.count program)
      (.ok (run.process input limits), { r with launches := program :: r.launches })

/-- Forgets what was built and run, as a new directory holds nothing. -/
def clear (r : Rehearsal) : Rehearsal :=
  { r with files := [], objects := [], programs := [], launches := [] }

/-- The bench of a rehearsal. -/
def bench : Bench Rehearsal where
  probe := fun r => (r.version, r)
  openWorkdir := fun r => (.ok r.workdir, r.clear)
  closeWorkdir := fun _ r => ((), r.clear)
  canonical := fun _ r => (none, r)
  write := fun path content r => (.ok (), { r with files := (path, content) :: r.files })
  compile := compile
  link := link
  start := launch

end Rehearsal

end Counterpart
