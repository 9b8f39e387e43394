/-
Carrying out a command line, and the status it ends with.
-/
import Counterpart.Command.Cases
import Counterpart.Command.Line

namespace Counterpart

namespace ExitCode

/-- Every argument set passes, or nothing was compared. -/
def ok : Nat := 0

/-- Some argument set does not pass, or something got worse. -/
def mismatch : Nat := 1

/-- The command was not carried out. -/
def error : Nat := 2

/-- The command broke off. -/
def broken : Nat := 101

/-- The status of a verdict. -/
def ofPassed (passed : Bool) : Nat := if passed then ok else mismatch

/-- The status of an error. -/
def ofError : CommandError → Nat
  | .digest _ => broken
  | .inputs _ .emptyRange => broken
  | .run (.input _ .emptyRange) => broken
  | _ => error

end ExitCode

/-- The name and version shown on request. -/
def versionLine : String := "decomp-equiv 0.1.0"

/-- What is shown to those who ask for help. -/
def helpLines : List String :=
  [ "Check decompiled C against reference programs by differential execution",
    "",
    "Usage: decomp-equiv [-v] <COMMAND>",
    "",
    "Commands: run, self-check, header, list-cases, inputs, history, regressions, help" ]

namespace Host

variable {m : Type → Type} [Monad m]

/-- The options of a run with its directories found. -/
def locate (host : Host m) (o : RunOptions) : CommandM m RunOptions := do
  let corpus ← host.existingDirectory o.corpus "Corpus"
  match o.decompiled with
  | none => return { o with corpus := corpus }
  | some dir =>
      let dir ← host.existingDirectory dir "Decompiled"
      return { o with corpus := corpus, decompiled := some dir }

/-- Carries out a command and tells its status. -/
def carryOut (host : Host m) (yaml : DocumentReader) : Command → CommandM m Nat
  | .run options => do
      let located ← host.locate options
      return ExitCode.ofPassed (← host.run yaml located)
  | .header out => do
      host.showHeader out
      return ExitCode.ok
  | .listCases corpus json => do
      let dir ← host.existingDirectory corpus "Corpus"
      host.listCases yaml dir json
      return ExitCode.ok
  | .inputs corpus case seed count config json => do
      let dir ← host.existingDirectory corpus "Corpus"
      host.showInputs yaml dir case seed count config json
      return ExitCode.ok
  | .history path json => do
      host.listRuns path json
      return ExitCode.ok
  | .regressions path base head json => do
      return ExitCode.ofPassed (← host.showRegressions path base head json)

/-- Carries out a command line: its status, and what it says to the standard error. -/
def perform (host : Host m) (yaml : DocumentReader) (arguments : List String) :
    m (Nat × String) := do
  match Command.read arguments with
  | .error .help => do
      host.printLines helpLines
      return (ExitCode.ok, "")
  | .error .version => do
      host.printLine versionLine
      return (ExitCode.ok, "")
  | .error usage => return (ExitCode.error, "error: " ++ usage.message ++ "\n")
  | .ok command =>
      match ← (host.carryOut yaml command).run with
      | .ok code => return (code, "")
      | .error e => return (ExitCode.ofError e, "error: " ++ e.message ++ "\n")

end Host

end Counterpart
