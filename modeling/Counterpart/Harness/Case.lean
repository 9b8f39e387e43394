/-
One case of a run: both variants are built once and compared on every argument set.
-/
import Counterpart.Comparison.Compare
import Counterpart.Generate.Basic
import Counterpart.Report.Basic
import Counterpart.Trial.Run

namespace Counterpart

/-- Why a whole run is called off. -/
inductive HarnessError where
  | input (case : String) (fault : InputError)
  | trial (case : String) (fault : TrialError)
  | toolchain (fault : ToolchainError)
  | workdir (reason : String)

/-- The sentence shown for a harness error. -/
def HarnessError.message : HarnessError → String
  | .input case fault => "input generation for '" ++ case ++ "' failed: " ++ fault.message
  | .trial case fault => "case '" ++ case ++ "': " ++ fault.message
  | .toolchain fault => fault.message
  | .workdir reason => "failed to create work directory: " ++ reason

/-- The entry of an argument set. -/
def VerdictEntry.ofSet (case : ReferenceCase) (set : ArgumentSet) (verdict : Verdict)
    (detail : Option String) : VerdictEntry :=
  { case := case.name
    category := case.category
    setIndex := set.index
    provenance := set.provenance
    verdict := verdict
    detail := detail
    arguments := String.ofList (set.text?.getD []) }

namespace Harness

variable {σ : Type}

/-- How many lines of diagnostics are kept. -/
def diagnosticLimit : Nat := 12

/-- The first lines of diagnostics, and how many more there are. -/
def keptDiagnostics (text : String) : String :=
  let lines := Text.lines text.toList
  if lines.length ≤ diagnosticLimit then String.ofList (Text.trim text.toList)
  else
    String.ofList (Text.join ['\n'] (lines.take diagnosticLimit)) ++
      s!"\n... ({lines.length - diagnosticLimit} more lines)"

/-- The entries of a case that is not built: one for each argument set, all alike. -/
def failureEntries (case : ReferenceCase) (variant : Variant) (diagnostics : String)
    (sets : List ArgumentSet) : List VerdictEntry :=
  let detail := variant.label ++ " variant: " ++ keptDiagnostics diagnostics
  sets.map fun set => VerdictEntry.ofSet case set .compileFailure (some detail)

/-- The entry of an argument set, from what the variants show. -/
def entryOf (config : Config) (case : ReferenceCase) (set : ArgumentSet)
    (pair : ExecutionPair) : VerdictEntry :=
  let comparison := compare (config.toleranceFor case) pair.original pair.decompiled
  VerdictEntry.ofSet case set comparison.verdict comparison.detail

/-- The entries of a case in a work directory. -/
def entriesIn (bench : Bench σ) (config : Config) (pair : CasePair) (sets : List ArgumentSet)
    (workdir : String) : Trial σ (List VerdictEntry) := do
  match ← Trial.prepare bench config pair workdir with
  | .failure variant diagnostics =>
      return failureEntries pair.case variant diagnostics sets
  | .ready prepared => sets.mapM fun set => do
      return entryOf config pair.case set (← Trial.run bench config prepared set.values)

/-- The entries of a case, in a work directory of its own. -/
def runCase (bench : Bench σ) (config : Config) (pair : CasePair) (sets : List ArgumentSet) :
    StateM σ (Except HarnessError (List VerdictEntry)) := do
  match ← bench.openWorkdir with
  | .error reason => return .error (.workdir reason)
  | .ok workdir =>
      let result ← ExceptT.run (entriesIn bench config pair sets workdir)
      bench.closeWorkdir workdir
      return result.mapError (.trial pair.case.name)

end Harness

end Counterpart
