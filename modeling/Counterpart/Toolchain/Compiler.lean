/-
Compilers with the usual command line: the arguments of each job, and what the result of
the process says about it.
-/
import Counterpart.Config
import Counterpart.Text.Lines
import Counterpart.Toolchain.Basic

namespace Counterpart

/-- A compiler with its flags. -/
structure Compiler where
  program : String
  cflags : List String
  linkFlags : List String
  deriving DecidableEq, Repr

/-- A process that has ended. -/
structure FinishedProcess where
  status : ExitStatus
  stdout : Bytes
  stderr : Bytes
  deriving DecidableEq, Repr

namespace Compiler

/-- The name of this kind of toolchain. -/
def kind : String := "cc"

/-- The compiler of a configuration. -/
def ofConfig (c : Config) : Compiler :=
  ⟨c.compiler, c.cflags, c.linkFlags⟩

/-- Gives a `main` in a source another name. -/
def renameMain : String := "-Dmain=decomp_equiv_variant_main"

/-- The arguments that ask for the version. -/
def versionArgs : List String := ["--version"]

/-- The arguments of a compilation. -/
def compileArgs (c : Compiler) (job : CompileJob) : List String :=
  c.cflags ++ ["-w"] ++
    (if job.renamesMain then [renameMain] else []) ++
    (match job.forcedHeader with
      | some header => ["-include", header]
      | none => []) ++
    job.includeDirs.flatMap (fun dir => ["-I", dir]) ++
    ["-c", job.source, "-o", job.output]

/-- The arguments of a linkage. -/
def linkArgs (c : Compiler) (job : LinkJob) : List String :=
  job.objects ++ ["-o", job.output] ++ c.linkFlags

/-- The version, which is the first line printed, from the process or the reason why there
is none. -/
def version (c : Compiler) : Except String FinishedProcess → Except ToolchainError String
  | .error reason => .error (.spawn c.program reason)
  | .ok p =>
      if p.status.isSuccess then
        let first := Text.trim ((Text.lines (Text.lossy p.stdout)).headD [])
        if first.isEmpty then .error (.probe (c.program ++ " --version printed nothing"))
        else .ok (String.ofList first)
      else .error (.probe (c.program ++ " --version exited with " ++ p.status.text))

/-- The result of a step, from the process or the reason why there is none. -/
def finish (c : Compiler) (stage : Stage) (input : String) :
    Except String FinishedProcess → Except ToolchainError Unit
  | .error reason => .error (.spawn c.program reason)
  | .ok p =>
      if p.status.isSuccess then .ok ()
      else .error (.failed stage input p.status (String.ofList (Text.lossy p.stderr)))

end Compiler

end Counterpart
