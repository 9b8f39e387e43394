/-
The JSON forms of verdicts and reports, and the digest that identifies a report.
-/
import Counterpart.Json.Write
import Counterpart.Random.Digest
import Counterpart.Record.Execution
import Counterpart.Report.Basic
import Counterpart.Text.Utf8

namespace Counterpart

namespace Verdict

def toJson (v : Verdict) : Json := .string v.label

def ofJson? (node : Json) : Option Verdict :=
  (Document.label? node).bind ofLabel?

end Verdict

namespace VerdictEntry

/-- An entry; the detail is left out where there is none. -/
def toJson (e : VerdictEntry) : Json :=
  .object ([("case", .string e.case), ("category", e.category.toJson),
      ("set_index", .nat e.setIndex), ("provenance", e.provenance.toJson),
      ("verdict", e.verdict.toJson)] ++
    Json.memberIf "detail" .string e.detail ++ [("arguments", .string e.arguments)])

def ofJson? (node : Json) : Option VerdictEntry := do
  let slot ← Document.slots?
    ["case", "category", "set_index", "provenance", "verdict", "detail", "arguments"] node
  let case ← (slot "case").required Document.text?
  let category ← (slot "category").required Category.ofNode?
  let setIndex ← (slot "set_index").required Document.nat?
  let provenance ← (slot "provenance").required Provenance.ofJson?
  let verdict ← (slot "verdict").required Verdict.ofJson?
  let detail ← (slot "detail").optionalOrAbsent Document.text?
  let arguments ← (slot "arguments").required Document.text?
  some ⟨case, category, setIndex, provenance, verdict, detail, arguments⟩

end VerdictEntry

namespace VerdictCount

def toJson (c : VerdictCount) : Json :=
  .object [("verdict", c.verdict.toJson), ("count", .nat c.count)]

def ofJson? (node : Json) : Option VerdictCount := do
  let slot ← Document.slots? ["verdict", "count"] node
  let verdict ← (slot "verdict").required Verdict.ofJson?
  let count ← (slot "count").required Document.nat?
  some ⟨verdict, count⟩

end VerdictCount

namespace CategorySummary

def toJson (s : CategorySummary) : Json :=
  .object [("category", s.category.toJson), ("cases", .nat s.cases), ("total", .nat s.total),
    ("passed", .nat s.passed), ("counts", .list VerdictCount.toJson s.counts)]

def ofJson? (node : Json) : Option CategorySummary := do
  let slot ← Document.slots? ["category", "cases", "total", "passed", "counts"] node
  let category ← (slot "category").required Category.ofNode?
  let cases ← (slot "cases").required Document.nat?
  let total ← (slot "total").required Document.nat?
  let passed ← (slot "passed").required Document.nat?
  let counts ← (slot "counts").required (Document.list? VerdictCount.ofJson?)
  some ⟨category, cases, total, passed, counts⟩

end CategorySummary

namespace CaseSummary

def toJson (s : CaseSummary) : Json :=
  .object [("name", .string s.name), ("category", s.category.toJson), ("total", .nat s.total),
    ("passed", .nat s.passed), ("worst", s.worst.toJson)]

def ofJson? (node : Json) : Option CaseSummary := do
  let slot ← Document.slots? ["name", "category", "total", "passed", "worst"] node
  let name ← (slot "name").required Document.text?
  let category ← (slot "category").required Category.ofNode?
  let total ← (slot "total").required Document.nat?
  let passed ← (slot "passed").required Document.nat?
  let worst ← (slot "worst").required Verdict.ofJson?
  some ⟨name, category, total, passed, worst⟩

end CaseSummary

namespace Report

def toJson (r : Report) : Json :=
  .object [("total", .nat r.total), ("passed", .nat r.passed), ("failed", .nat r.failed),
    ("pass_rate", .float r.passRate), ("counts", .list VerdictCount.toJson r.counts),
    ("categories", .list CategorySummary.toJson r.categories),
    ("cases", .list CaseSummary.toJson r.cases),
    ("failures", .list VerdictEntry.toJson r.failures)]

def ofJson? (node : Json) : Option Report := do
  let slot ← Document.slots?
    ["total", "passed", "failed", "pass_rate", "counts", "categories", "cases", "failures"] node
  let total ← (slot "total").required Document.nat?
  let passed ← (slot "passed").required Document.nat?
  let failed ← (slot "failed").required Document.nat?
  let passRate ← (slot "pass_rate").required Document.float?
  let counts ← (slot "counts").required (Document.list? VerdictCount.ofJson?)
  let categories ← (slot "categories").required (Document.list? CategorySummary.ofJson?)
  let cases ← (slot "cases").required (Document.list? CaseSummary.ofJson?)
  let failures ← (slot "failures").required (Document.list? VerdictEntry.ofJson?)
  some ⟨total, passed, failed, passRate, counts, categories, cases, failures⟩

/-- The digest of the compact form. -/
def digest (r : Report) : String :=
  String.ofList (Text.hexBytes (Digest.sha256 (Text.utf8 r.toJson.compact)))

end Report

end Counterpart
