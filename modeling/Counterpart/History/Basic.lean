/-
What a history of runs keeps: a record for each run, and its verdicts without the texts
of the arguments.
-/
import Counterpart.Argument.Value
import Counterpart.Case
import Counterpart.Comparison.Verdict

namespace Counterpart

/-- What is recorded of one run. -/
structure RunRecord where
  startedAt : String
  finishedAt : String
  seed : Nat
  count : Nat
  corpusDir : String
  /-- None for a run of the corpus against itself. -/
  decompiledDir : Option String
  toolchain : Option String
  /-- The digest of the report. -/
  reportHash : String
  total : Nat
  passed : Nat
  deriving DecidableEq, Repr

/-- A recorded run with its number. -/
structure StoredRun where
  id : Int
  record : RunRecord
  deriving DecidableEq, Repr

/-- A recorded verdict. -/
structure StoredVerdict where
  caseName : String
  category : Category
  setIndex : Nat
  provenance : Provenance
  verdict : Verdict
  detail : Option String
  deriving DecidableEq, Repr

/-- A verdict that got worse from one run to another. -/
structure Regression where
  caseName : String
  setIndex : Nat
  base : Verdict
  head : Verdict
  detail : Option String
  deriving DecidableEq, Repr

end Counterpart
