/-
The rows in which a history is kept.  Numbers are signed words of sixty-four bits there
and labels are texts, so what comes back from a row is checked again.
-/
import Counterpart.History.Basic
import Counterpart.Report.Basic

namespace Counterpart

namespace Column

/-- A number without a sign as a column keeps it. -/
def ofNat (n : Nat) : Int := (BitVec.ofNat 64 n).toInt

/-- The number without a sign in a column. -/
def toNat (i : Int) : Nat := (BitVec.ofInt 64 i).toNat

end Column

/-- The columns of a verdict that hold labels. -/
inductive LabelColumn where
  | category
  | provenance
  | verdict
  deriving DecidableEq, Repr

namespace LabelColumn

def all : List LabelColumn := [.category, .provenance, .verdict]

def label : LabelColumn → String
  | .category => "category"
  | .provenance => "provenance"
  | .verdict => "verdict"

/-- The column of a label. -/
def ofLabel? (label : String) : Option LabelColumn :=
  all.find? (·.label == label)

end LabelColumn

/-- Why a history was not opened or not read. -/
inductive HistoryError where
  /-- The file cannot be opened as a history. -/
  | damaged
  | unsupportedVersion (found : Int)
  | unknownRun (id : Int)
  | unrecognized (column : LabelColumn) (value : String)
  deriving DecidableEq, Repr

/-- The layout that this library writes; older ones are brought up to it. -/
def currentVersion : Int := 2

/-- The sentence shown for a history error. -/
def HistoryError.message : HistoryError → String
  | .damaged => "file is not a history database"
  | .unsupportedVersion found =>
      s!"Unsupported schema version {found}; supported range is 0..={currentVersion}"
  | .unknownRun id => s!"Run {id} not found"
  | .unrecognized column value =>
      "Unrecognized " ++ column.label ++ " '" ++ value ++ "' in history database"

/-- A run as its row keeps it. -/
structure RunRow where
  id : Int
  startedAt : String
  finishedAt : String
  seed : Int
  count : Int
  corpusDir : String
  decompiledDir : Option String
  toolchain : Option String
  reportHash : String
  total : Int
  passed : Int
  deriving DecidableEq, Repr

namespace RunRow

/-- The row of a record under a number. -/
def ofRecord (id : Int) (r : RunRecord) : RunRow :=
  ⟨id, r.startedAt, r.finishedAt, Column.ofNat r.seed, Column.ofNat r.count, r.corpusDir,
    r.decompiledDir, r.toolchain, r.reportHash, Column.ofNat r.total, Column.ofNat r.passed⟩

/-- The run in a row. -/
def toRun (row : RunRow) : StoredRun :=
  ⟨row.id,
    { startedAt := row.startedAt
      finishedAt := row.finishedAt
      seed := Column.toNat row.seed
      count := Column.toNat row.count
      corpusDir := row.corpusDir
      decompiledDir := row.decompiledDir
      toolchain := row.toolchain
      reportHash := row.reportHash
      total := Column.toNat row.total
      passed := Column.toNat row.passed }⟩

end RunRow

/-- A verdict as its row keeps it. -/
structure VerdictRow where
  runId : Int
  caseName : String
  category : String
  setIndex : Int
  provenance : String
  verdict : String
  detail : Option String
  deriving DecidableEq, Repr

namespace VerdictRow

/-- The row of an entry of a run. -/
def ofEntry (runId : Int) (e : VerdictEntry) : VerdictRow :=
  ⟨runId, e.case, e.category.label, Column.ofNat e.setIndex, e.provenance.label, e.verdict.label,
    e.detail⟩

/-- Whether two rows stand for the same argument set of the same run. -/
def sameKey (a b : VerdictRow) : Bool :=
  a.runId == b.runId && a.caseName == b.caseName && a.setIndex == b.setIndex

/-- The row with another text in a column. -/
def relabel (column : LabelColumn) (value : String) (row : VerdictRow) : VerdictRow :=
  match column with
  | .category => { row with category := value }
  | .provenance => { row with provenance := value }
  | .verdict => { row with verdict := value }

/-- What a label stands for. -/
def known (column : LabelColumn) (ofLabel? : String → Option α) (value : String) :
    Except HistoryError α :=
  match ofLabel? value with
  | some a => .ok a
  | none => .error (.unrecognized column value)

/-- The verdict in a row. -/
def toVerdict (row : VerdictRow) : Except HistoryError StoredVerdict := do
  let category ← known .category Category.ofLabel? row.category
  let provenance ← known .provenance Provenance.ofLabel? row.provenance
  let verdict ← known .verdict Verdict.ofLabel? row.verdict
  .ok ⟨row.caseName, category, Column.toNat row.setIndex, provenance, verdict, row.detail⟩

end VerdictRow

end Counterpart
