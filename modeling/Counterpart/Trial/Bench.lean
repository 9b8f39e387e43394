/-
The bench on which programs are built and run.  It is given by its operations on a state,
so that a run can be followed step by step whatever stands on the bench.
-/
import Counterpart.Trial.Sandbox

namespace Counterpart

/-- The operations of a bench with states in `σ`.  Those that can fail give a reason. -/
structure Bench (σ : Type) where
  /-- The version of the compiler. -/
  probe : StateM σ (Except ToolchainError String)
  /-- A new directory of its own. -/
  openWorkdir : StateM σ (Except String String)
  /-- Gives up a directory with all that is in it. -/
  closeWorkdir : String → StateM σ Unit
  /-- The path without detours to what a path leads to, be it a directory or a file, if
  anything is there. -/
  canonical : String → StateM σ (Option String)
  /-- Writes a text to a path. -/
  write : String → String → StateM σ (Except String Unit)
  compile : CompileJob → StateM σ (Except ToolchainError Unit)
  link : LinkJob → StateM σ (Except ToolchainError Unit)
  /-- Starts the program at a path on an input, under limits. -/
  start : String → Bytes → Limits → StateM σ (Except String Process)

/-- Runs the program at a path on an input, for no longer than the limits allow. -/
def Bench.launch {σ : Type} (bench : Bench σ) (program : String) (input : Bytes)
    (limits : Limits) : StateM σ (Except String Outcome) := do
  return (← bench.start program input limits).bind (·.supervise limits.timeoutNanos)

end Counterpart
