/-
The commands that show a history: its runs, and what got worse between two of them.
-/
import Counterpart.Command.Host
import Counterpart.History.Address
import Counterpart.Record.Run
import Counterpart.Text.Utf8

namespace Counterpart

namespace History

/-- The numbers of the two runs to be compared, the base first.  Where they are not given,
the head is the latest run and the base the latest of the last two that is not the head. -/
def selection (h : History) (path : String) (base head : Option Int) :
    Except CommandError (Int × Int) := do
  let latest := h.latest 2
  let head ← match head.or latest.head? with
    | some id => .ok id
    | none => .error (.noRuns path)
  match base.or (latest.find? (· != head)) with
  | some base => .ok (base, head)
  | none => .error .singleRun

end History

namespace StoredRun

/-- How many bytes of a digest are shown. -/
def digestHead : Nat := 12

/-- The head of a text within a number of bytes, if it does not end inside a character. -/
def headBytes? (limit : Nat) (s : String) : Option String :=
  (Text.utf8? ((Text.utf8 s.toList).take limit)).map String.ofList

/-- The line of a run in a list of runs. -/
def listingLine? (run : StoredRun) : Option String :=
  let r := run.record
  (headBytes? digestHead r.reportHash).map fun digest =>
    s!"- #{run.id} " ++ r.startedAt ++ s!" seed={r.seed} count={r.count} passed " ++
      s!"{r.passed}/{r.total} corpus=" ++ r.corpusDir ++ " decompiled=" ++
      r.decompiledDir.getD "(self-check)" ++ " report=" ++ digest

end StoredRun

/-- The lines that show a regression. -/
def Regression.lines (r : Regression) : List String :=
  ("- " ++ r.caseName ++ s!" #{r.setIndex}: " ++ r.base.label ++ " -> " ++ r.head.label) ::
    match r.detail with
    | some detail => ["    " ++ detail]
    | none => []

namespace Host

variable {m : Type → Type} [Monad m]

/-- The database at an address.  Where there is none, one that was never used takes its place
if the address permits to make it. -/
def database (host : Host m) (address : DatabaseAddress) : m (Except HistoryError Database) := do
  match address.path with
  | none => return .ok .fresh
  | some path =>
      match ← host.readDatabase path with
      | .error fault => return .error fault
      | .ok (some d) => return .ok d
      | .ok none => return if address.access = .creating then .ok .fresh else .error .damaged

/-- Keeps a database at its address and tells whether it could. -/
def keep (host : Host m) (address : DatabaseAddress) (d : Database) : m Bool := do
  if !address.isWritable then return false
  else match address.path with
    | none => return true
    | some path => host.writeDatabase path d

/-- Opens the history at an address, and brings what is kept there to the current version. -/
def openHistory (host : Host m) (text : String) : CommandM m History := do
  let fail (fault : HistoryError) : CommandError := .history text fault
  match DatabaseAddress.ofText? text with
  | none => throw (fail .damaged)
  | some address =>
      match ← host.database address with
      | .error fault => throw (fail fault)
      | .ok d =>
          match History.openDatabase d with
          | .error fault => throw (fail fault)
          | .ok h =>
              if h.toDatabase = d then return h
              else if ← host.keep address h.toDatabase then return h
              else throw (fail .damaged)

/-- Keeps a history at its address. -/
def saveHistory (host : Host m) (text : String) (h : History) : CommandM m Unit := do
  let kept ← match DatabaseAddress.ofText? text with
    | none => pure false
    | some address => host.keep address h.toDatabase
  if !kept then throw (.history text .damaged)

/-- Opens a history that must be there. -/
def existingHistory (host : Host m) (path : String) : CommandM m History := do
  if ← host.isFile path then host.openHistory path
  else throw (.historyMissing path)

/-- Lists the runs of a history. -/
def listRuns (host : Host m) (path : String) (json : Bool) : CommandM m Unit := do
  let h ← host.existingHistory path
  let runs := h.listRuns
  if json then host.printJson (.list StoredRun.toJson runs)
  else if runs.isEmpty then host.printLine "Runs: (none)"
  else do
    host.printLine "Runs:"
    for run in runs do
      match run.listingLine? with
      | some line => host.printLine line
      | none => throw (.digest run.id)

/-- Shows what got worse between two runs, and tells whether nothing did. -/
def showRegressions (host : Host m) (path : String) (base head : Option Int) (json : Bool) :
    CommandM m Bool := do
  let h ← host.existingHistory path
  let (base, head) ← ExceptT.mk (pure (h.selection path base head))
  match h.regressions base head with
  | .error fault => throw (.comparison base head fault)
  | .ok found =>
      if json then host.printJson (.list Regression.toJson found)
      else
        host.printLines (s!"Regressions from run {base} to run {head}:" ::
          if found.isEmpty then ["(none)"] else found.flatMap Regression.lines)
      return found.isEmpty

end Host

end Counterpart
