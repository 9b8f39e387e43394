/-
The commands that write: the header for recompiled sources, and a whole run with its report
and its record.
-/
import Counterpart.Command.Records
import Counterpart.Command.Settings
import Counterpart.Header.Text
import Counterpart.Report.Text

namespace Counterpart

/-- What a run is asked to do. -/
structure RunOptions where
  corpus : String
  /-- None for a run of the corpus against itself. -/
  decompiled : Option String
  seed : Nat
  count : Nat
  config : Option String
  overrides : ConfigOverrides
  /-- Where the report is written, if anywhere. -/
  report : Option String
  /-- The history that records the run, if any. -/
  history : Option String
  deriving DecidableEq, Repr

/-- The content of a report file: JSON if the path says so, else text. -/
def Report.fileText (r : Report) (path : String) : String :=
  if Path.isJson path then String.ofList (r.toJson.pretty ++ ['\n']) else r.text

/-- The record of a run. -/
def RunOptions.record (o : RunOptions) (summary : RunSummary) (startedAt finishedAt : String) :
    RunRecord :=
  let report := summary.report
  { startedAt := startedAt
    finishedAt := finishedAt
    seed := o.seed
    count := o.count
    corpusDir := o.corpus
    decompiledDir := o.decompiled
    toolchain := some summary.toolchain
    reportHash := report.digest
    total := report.total
    passed := report.passed }

namespace Host

variable {m : Type → Type} [Monad m]

/-- Prints the header, or writes it to a file. -/
def showHeader (host : Host m) (out : Option String) : CommandM m Unit := do
  match out with
  | none => host.print Header.text
  | some path =>
      if ← host.write path (Text.utf8 Header.text.toList) then
        host.printLine ("Wrote compatibility header to " ++ path)
      else throw (.header path)

/-- Writes a report, and the directories on the way to it. -/
def writeReport (host : Host m) (path : String) (report : Report) : CommandM m Unit := do
  match (Path.parent? path).filter (!·.isEmpty) with
  | none => pure ()
  | some parent =>
      if !(← host.makeDirectories parent) then throw (.reportDirectory parent)
  if !(← host.write path (Text.utf8 (report.fileText path).toList)) then throw (.report path)

/-- Records a run and tells its number. -/
def recordRun (host : Host m) (path : String) (record : RunRecord)
    (entries : List VerdictEntry) : CommandM m Int := do
  let h ← host.openHistory path
  let (id, h) := h.recordRun record entries
  host.saveHistory path h
  return id

/-- The pairs of a run. -/
def pairs (host : Host m) (o : RunOptions) (registry : Registry) :
    CommandM m (List CasePair) := do
  match o.decompiled with
  | none => return CasePair.selfCheck registry o.corpus
  | some dir =>
      let found ← host.present (registry.cases.map fun case => Path.join dir case.source)
      ExceptT.mk (pure
        ((CasePair.ofRegistry (found.contains ·) registry o.corpus dir).mapError .pairing))

/-- Runs a corpus and tells whether every argument set passes. -/
def run (host : Host m) (yaml : DocumentReader) (o : RunOptions) : CommandM m Bool := do
  let config ← host.loadConfig yaml o.config o.overrides
  let registry ← host.loadRegistry yaml o.corpus
  let pairs ← host.pairs o registry
  let startedAt ← host.now
  match ← host.runPairs config pairs o.seed o.count with
  | .error fault => throw (.run fault)
  | .ok summary =>
      let finishedAt ← host.now
      let report := summary.report
      host.print report.text
      match o.report with
      | none => pure ()
      | some path => do
          host.writeReport path report
          host.printLine ("\nReport written to " ++ path)
      match o.history with
      | none => pure ()
      | some path => do
          let record := o.record summary startedAt finishedAt
          let id ← host.recordRun path record summary.entries
          host.printLine (s!"Recorded run {id} in " ++ path)
      return report.allPassed

end Host

end Counterpart
