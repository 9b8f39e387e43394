/-
Running both variants on the same arguments.
-/
import Counterpart.Exchange.Encode
import Counterpart.Trial.Build
import Counterpart.Trial.Observe

namespace Counterpart

/-- What the two variants show on the same arguments. -/
structure ExecutionPair where
  original : Execution
  decompiled : Execution
  deriving DecidableEq, Repr

namespace Trial

variable {σ : Type}

/-- The limits that a configuration sets. -/
def limits (config : Config) : Limits :=
  ⟨config.timeoutNanos, config.memoryLimitBytes⟩

/-- Runs one executable on encoded arguments. -/
def execute (bench : Bench σ) (config : Config) (sig : Signature) (program : String)
    (values : List ArgValue) (input : List Char) : Trial σ Execution := do
  let outcome ← perform (.launch program) (bench.launch program (Text.utf8 input) (limits config))
  ExceptT.mk (pure (Execution.ofOutcome sig config.guardBytes values outcome))

/-- Runs both executables on the same arguments, the original first. -/
def run (bench : Bench σ) (config : Config) (prepared : Prepared) (values : List ArgValue) :
    Trial σ ExecutionPair := do
  let sig := prepared.case.signature
  let input ← ExceptT.mk (pure ((Exchange.encode sig values).mapError .exchange))
  let original ← execute bench config sig prepared.original values input
  let decompiled ← execute bench config sig prepared.decompiled values input
  return ⟨original, decompiled⟩

/-- Builds a case and runs it on one list of arguments. -/
def once (bench : Bench σ) (config : Config) (pair : CasePair) (workdir : String)
    (values : List ArgValue) : Trial σ (Except (Variant × String) ExecutionPair) := do
  match ← prepare bench config pair workdir with
  | .failure variant text => return .error (variant, text)
  | .ready prepared => return .ok (← run bench config prepared values)

end Trial

end Counterpart
