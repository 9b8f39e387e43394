/-
Reports as text for a reader.
-/
import Counterpart.Report.Basic
import Counterpart.Text.Lines

namespace Counterpart.Report

/-- A text filled up on the right to a number of characters. -/
def column (width : Nat) (s : String) : String :=
  String.ofList (Text.padRight width s.toList)

/-- A part of one in percent, with two places. -/
def percent (rate : Double) : String :=
  let hundredfold := rate.mul (Double.ofNat 100)
  let ratio := Binary.double.ratio hundredfold.bits.toNat
  String.ofList (Binary.fixedPlaces 2 ratio.1 ratio.2)

/-- The lines on one failure: the entry, then its detail line by line. -/
def failureLines (e : VerdictEntry) : List String :=
  ("  " ++ e.case ++ s!" #{e.setIndex} [" ++ e.provenance.label ++ "] " ++ e.verdict.label ++
      ": " ++ e.arguments) ::
    match e.detail with
    | none => []
    | some detail => (Text.lines detail.toList).map fun line => "      " ++ String.ofList line

/-- The lines of the report. -/
def textLines (r : Report) : List String :=
  [ "decomp-equiv report",
    s!"argument sets: {r.total}  passed: {r.passed}  failed: {r.failed}  pass rate: " ++
      percent r.passRate ++ "%",
    "",
    "verdicts:" ] ++
  r.counts.map (fun c => "  " ++ column 22 c.verdict.label ++ s!" {c.count}") ++
  ["", "categories:"] ++
  r.categories.map (fun c =>
    "  " ++ column 22 c.category.label ++ s!" {c.passed}/{c.total} ({c.cases} cases)") ++
  ["", "cases:"] ++
  r.cases.map (fun c =>
    "  " ++ column 28 c.name ++ " " ++ column 18 c.category.label ++
      s!" {c.passed}/{c.total}  " ++ c.worst.label) ++
  (if r.failures.isEmpty then [] else ["", "failures:"] ++ r.failures.flatMap failureLines)

/-- The report as text. -/
def text (r : Report) : String :=
  String.join (r.textLines.map (· ++ "\n"))

end Counterpart.Report
