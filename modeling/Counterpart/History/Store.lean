/-
The history of runs.  Runs are only ever added, under numbers that grow; a verdict that is
stored again takes the place of the former one at the end of the list.
-/
import Counterpart.History.Table

namespace Counterpart

/-- A history that is open for use. -/
structure History where
  /-- The version of the layout. -/
  version : Int
  /-- The greatest number given to a run so far. -/
  lastId : Int
  /-- The runs in ascending order of their numbers. -/
  runs : List RunRow
  /-- The verdicts in the order in which they were stored. -/
  verdicts : List VerdictRow
  deriving DecidableEq, Repr

namespace History

/-- The history without runs. -/
def empty : History := ⟨currentVersion, 0, [], []⟩

/-- Adds a run and tells its number. -/
def insertRun (h : History) (record : RunRecord) : Int × History :=
  let id := h.lastId + 1
  (id, { h with lastId := id, runs := h.runs ++ [RunRow.ofRecord id record] })

/-- Stores one verdict of a run. -/
def insertVerdict (runId : Int) (h : History) (e : VerdictEntry) : History :=
  let row := VerdictRow.ofEntry runId e
  { h with verdicts := h.verdicts.filter (fun other => !other.sameKey row) ++ [row] }

/-- Stores verdicts of a run. -/
def insertVerdicts (h : History) (runId : Int) (entries : List VerdictEntry) : History :=
  entries.foldl (insertVerdict runId) h

/-- Adds a run with its verdicts and tells its number. -/
def recordRun (h : History) (record : RunRecord) (entries : List VerdictEntry) :
    Int × History :=
  let (id, h) := h.insertRun record
  (id, h.insertVerdicts id entries)

/-- The runs in the order of their numbers. -/
def listRuns (h : History) : List StoredRun :=
  h.runs.map (·.toRun)

/-- The run of that number. -/
def getRun (h : History) (id : Int) : Option StoredRun :=
  (h.runs.find? (·.id == id)).map (·.toRun)

/-- The numbers of the latest runs, newest first.  The limit is a signed column value, and
a negative one is none. -/
def latest (h : History) (limit : Nat) : List Int :=
  let ids := (h.runs.map (·.id)).reverse
  let bound := Column.ofNat limit
  if bound < 0 then ids else ids.take bound.toNat

/-- The verdicts of a run. -/
def load (h : History) (id : Int) : Except HistoryError (List StoredVerdict) :=
  if (h.getRun id).isNone then .error (.unknownRun id)
  else (h.verdicts.filter (·.runId == id)).mapM (·.toVerdict)

/-- The verdict on the same argument set among others. -/
def verdictFor? (others : List StoredVerdict) (v : StoredVerdict) : Option Verdict :=
  (others.reverse.find? fun o => o.caseName == v.caseName && o.setIndex == v.setIndex).map
    (·.verdict)

/-- The regression that a verdict is against a baseline, if it is one: it fails, and it is
more severe than that of the baseline, which counts as equivalent where it has none. -/
def regression? (baseline : List StoredVerdict) (v : StoredVerdict) : Option Regression :=
  let before := (verdictFor? baseline v).getD .equivalent
  if !v.verdict.isPass && before.severity < v.verdict.severity then
    some ⟨v.caseName, v.setIndex, before, v.verdict, v.detail⟩
  else none

/-- What got worse from one run to another. -/
def regressions (h : History) (base head : Int) : Except HistoryError (List Regression) := do
  let baseline ← h.load base
  let verdicts ← h.load head
  .ok (verdicts.filterMap (regression? baseline))

/-- The history with another version; the version is a signed word of thirty-two bits, and zero
stands for what does not fit it. -/
def withVersion (h : History) (version : Int) : History :=
  { h with version := if -(2 ^ 31) ≤ version ∧ version < 2 ^ 31 then version else 0 }

/-- Overwrites a label of all verdicts on a case and tells how many there are. -/
def relabel (h : History) (case : String) (column : LabelColumn) (value : String) :
    Nat × History :=
  let touches (row : VerdictRow) : Bool := row.caseName == case
  (h.verdicts.countP touches,
    { h with
      verdicts := h.verdicts.map fun row => if touches row then row.relabel column value else row })

end History

end Counterpart
