/-
Building both variants of a case.  The driver is compiled once and linked against each of
them; a variant that cannot be built is a result, a driver that cannot is an error.
-/
import Counterpart.Config
import Counterpart.Corpus.Registry
import Counterpart.Exchange.Driver
import Counterpart.Header.Text
import Counterpart.Trial.Bench
import Counterpart.Trial.Error

namespace Counterpart

namespace Workdir

/-- What stands for a work directory in diagnostics. -/
def mark : List Char := "<workdir>".toList

/-- The ways to write a path, the longest first: as it stands, and as what it leads to, be that
a directory or a file. -/
def spellings (canonical : Option String) (workdir : String) : List String :=
  match canonical with
  | none => [workdir]
  | some other =>
      if other = workdir then [workdir]
      else if other.utf8ByteSize < workdir.utf8ByteSize then [workdir, other]
      else [other, workdir]

/-- The text with every spelling of a path replaced by the mark. -/
def mask (canonical : Option String) (workdir : String) (text : List Char) : List Char :=
  (spellings canonical workdir).foldl (fun text s => Text.replace s.toList mark text) text

end Workdir

/-- The two executables of a case. -/
structure Prepared where
  case : ReferenceCase
  original : String
  decompiled : String

/-- What building a case comes to. -/
inductive Preparation where
  | ready (prepared : Prepared)
  | failure (variant : Variant) (diagnostics : String)

namespace Trial

variable {σ : Type}

/-- An operation of the bench whose failure calls the trial off. -/
def perform (f : ε → TrialError) (action : StateM σ (Except ε α)) : Trial σ α :=
  ExceptT.mk do
    match ← action with
    | .ok a => return .ok a
    | .error e => return .error (f e)

/-- The job that compiles a variant.  The decompiled one sees the header in front of it and
may include it from the work directory. -/
def variantJob (variant : Variant) (source workdir : String) : CompileJob :=
  let near := ((Path.parent? source).map fun dir => [dir]).getD []
  { source := source
    output := Path.join workdir (variant.label ++ ".o")
    forcedHeader := match variant with
      | .original => none
      | .decompiled => some (Path.join workdir Header.fileName)
    includeDirs := match variant with
      | .original => near
      | .decompiled => near ++ [workdir]
    renamesMain := true }

/-- The executable of a variant. -/
def executable (variant : Variant) (workdir : String) : String :=
  Path.join workdir (variant.label ++ ".bin")

/-- The object of the driver. -/
def driverObject (workdir : String) : String := Path.join workdir "eq_driver.o"

/-- The diagnostics of a variant that is not built. -/
def diagnostics (canonical : Option String) (workdir : String) (stage : Stage)
    (stderr : String) : String :=
  stage.label ++ " failed: " ++
    String.ofList (Workdir.mask canonical workdir (Text.trim stderr.toList))

/-- Compiles and links one variant. -/
def compileAndLink (bench : Bench σ) (variant : Variant) (source workdir : String) :
    StateM σ (Except ToolchainError Unit) := do
  let job := variantJob variant source workdir
  match ← bench.compile job with
  | .error fault => return .error fault
  | .ok () => bench.link ⟨[driverObject workdir, job.output], executable variant workdir⟩

/-- Builds one variant: its executable, or the diagnostics. -/
def buildVariant (bench : Bench σ) (variant : Variant) (source workdir : String) :
    Trial σ (Except String String) :=
  ExceptT.mk do
    match ← compileAndLink bench variant source workdir with
    | .ok () => return .ok (.ok (executable variant workdir))
    | .error (.failed stage _ _ stderr) =>
        return .ok (.error (diagnostics (← bench.canonical workdir) workdir stage stderr))
    | .error fault => return .error (.toolchain fault)

/-- The error of a driver that is not compiled. -/
def driverFault (case : String) : ToolchainError → TrialError
  | fault@(.failed _ _ _ _) => .driver case fault
  | fault => .toolchain fault

/-- Writes a file into the work directory. -/
def writeFile (bench : Bench σ) (path content : String) : Trial σ Unit :=
  perform (.io path) (bench.write path content)

/-- Writes the header and the driver, and compiles the driver. -/
def buildDriver (bench : Bench σ) (config : Config) (case : ReferenceCase) (workdir : String) :
    Trial σ Unit := do
  writeFile bench (Path.join workdir Header.fileName) Header.text
  let source := Path.join workdir Driver.fileName
  writeFile bench source (Driver.source case.signature config.guardBytes)
  perform (driverFault case.name) (bench.compile ⟨source, driverObject workdir, none, [], false⟩)

/-- Builds both variants of a case, the original first. -/
def prepare (bench : Bench σ) (config : Config) (pair : CasePair) (workdir : String) :
    Trial σ Preparation := do
  buildDriver bench config pair.case workdir
  match ← buildVariant bench .original pair.original workdir with
  | .error text => return .failure .original text
  | .ok original =>
      match ← buildVariant bench .decompiled pair.decompiled workdir with
      | .error text => return .failure .decompiled text
      | .ok decompiled => return .ready ⟨pair.case, original, decompiled⟩

end Trial

end Counterpart
