/-
A whole run: the compiler is asked for its version, all arguments are generated, and the
cases are run by a pool of workers.
-/
import Counterpart.Generate.Sets
import Counterpart.Harness.Case
import Counterpart.Harness.Pool

namespace Counterpart

/-- What a run comes to. -/
structure RunSummary where
  /-- The version of the compiler. -/
  toolchain : String
  /-- The verdicts in the order of registration and generation. -/
  entries : List VerdictEntry

/-- The report on a run. -/
def RunSummary.report (s : RunSummary) : Report :=
  Report.summarize s.entries

namespace Harness

variable {σ : Type}

/-- The argument sets of all cases. -/
def generateAll (config : Config) (pairs : List CasePair) (seed count : Nat) :
    Except HarnessError (List (List ArgumentSet)) :=
  pairs.mapM fun pair =>
    (Generate.setsFor config.generator pair.case seed count).mapError (.input pair.case.name)

/-- Runs the cases with their argument sets. -/
def runCases (bench : Bench σ) (config : Config) (cases : List (CasePair × List ArgumentSet)) :
    StateM σ (Except HarnessError (List (List VerdictEntry))) :=
  Pool.run config.workers cases.length fun index =>
    match cases[index]? with
    | some (pair, sets) => runCase bench config pair sets
    | none => pure (.ok [])

/-- Runs every pair on `count` argument sets. -/
def run (bench : Bench σ) (config : Config) (pairs : List CasePair) (seed count : Nat) :
    ExceptT HarnessError (StateM σ) RunSummary := do
  let version ← ExceptT.mk do return (← bench.probe).mapError HarnessError.toolchain
  let sets ← ExceptT.mk (pure (generateAll config pairs seed count))
  let entries ← ExceptT.mk (runCases bench config (pairs.zip sets))
  return ⟨version, entries.flatten⟩

end Harness

end Counterpart
