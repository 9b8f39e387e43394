/-
Reports: the verdicts of a run, counted over the run, over each category and over each
case.  A report holds no times, so equal runs have equal reports.
-/
import Counterpart.Argument.Value
import Counterpart.Case
import Counterpart.Comparison.Verdict

namespace Counterpart

/-- The verdict on one argument set of one case. -/
structure VerdictEntry where
  case : String
  category : Category
  setIndex : Nat
  provenance : Provenance
  verdict : Verdict
  detail : Option String
  /-- The line that shows the arguments. -/
  arguments : String
  deriving DecidableEq, Repr

/-- How often a verdict occurs. -/
structure VerdictCount where
  verdict : Verdict
  count : Nat
  deriving DecidableEq, Repr

/-- The entries of one category. -/
structure CategorySummary where
  category : Category
  cases : Nat
  total : Nat
  passed : Nat
  counts : List VerdictCount
  deriving DecidableEq, Repr

/-- The entries of one case. -/
structure CaseSummary where
  name : String
  category : Category
  total : Nat
  passed : Nat
  worst : Verdict
  deriving DecidableEq, Repr

/-- A whole run. -/
structure Report where
  total : Nat
  passed : Nat
  failed : Nat
  /-- The part of the entries that pass, one for a run without entries. -/
  passRate : Double
  counts : List VerdictCount
  categories : List CategorySummary
  cases : List CaseSummary
  failures : List VerdictEntry
  deriving DecidableEq, Repr

namespace Report

/-- Whether every entry passes. -/
def allPassed (r : Report) : Bool := r.failed == 0

/-- How often a verdict occurs in the run. -/
def count (r : Report) (verdict : Verdict) : Nat :=
  ((r.counts.find? (·.verdict == verdict)).map (·.count)).getD 0

/-- How often each verdict occurs. -/
def tally (entries : List VerdictEntry) : List VerdictCount :=
  Verdict.all.map fun v => ⟨v, entries.countP (·.verdict == v)⟩

/-- The number of entries that pass. -/
def passes (entries : List VerdictEntry) : Nat :=
  entries.countP (·.verdict.isPass)

/-- The names of the entries with immediate repetitions left out. -/
def runNames : List VerdictEntry → List String
  | [] => []
  | [e] => [e.case]
  | e :: e' :: rest =>
      if e.case = e'.case then runNames (e' :: rest) else e.case :: runNames (e' :: rest)

/-- The row of a category, from its entries. -/
def categoryRow (category : Category) (entries : List VerdictEntry) : CategorySummary :=
  { category := category
    cases := (runNames entries).length
    total := entries.length
    passed := passes entries
    counts := tally entries }

/-- The rows of the categories that occur. -/
def categoryRows (entries : List VerdictEntry) : List CategorySummary :=
  Category.all.filterMap fun c =>
    match entries.filter (·.category == c) with
    | [] => none
    | own => some (categoryRow c own)

/-- The row that one entry makes. -/
def CaseSummary.ofEntry (e : VerdictEntry) : CaseSummary :=
  ⟨e.case, e.category, 1, if e.verdict.isPass then 1 else 0, e.verdict⟩

/-- The row with one more entry. -/
def CaseSummary.push (row : CaseSummary) (e : VerdictEntry) : CaseSummary :=
  { row with
    total := row.total + 1
    passed := row.passed + if e.verdict.isPass then 1 else 0
    worst := row.worst.worst e.verdict }

/-- The rows of the remaining entries behind a row that may still grow. -/
def caseRowsFrom (row : CaseSummary) : List VerdictEntry → List CaseSummary
  | [] => [row]
  | e :: rest =>
      if row.name = e.case then caseRowsFrom (CaseSummary.push row e) rest
      else row :: caseRowsFrom (CaseSummary.ofEntry e) rest

/-- One row for each run of entries of the same name. -/
def caseRows : List VerdictEntry → List CaseSummary
  | [] => []
  | e :: rest => caseRowsFrom (CaseSummary.ofEntry e) rest

/-- The report on entries given in the order of registration and generation. -/
def summarize (entries : List VerdictEntry) : Report :=
  let total := entries.length
  let passed := passes entries
  { total := total
    passed := passed
    failed := total - passed
    passRate := if total = 0 then Double.ofNat 1 else (Double.ofNat passed).div (Double.ofNat total)
    counts := tally entries
    categories := categoryRows entries
    cases := caseRows entries
    failures := entries.filter (!·.verdict.isPass) }

end Report

end Counterpart
