/-
The JSON forms of recorded runs.
-/
import Counterpart.History.Basic
import Counterpart.Record.Report

namespace Counterpart

namespace RunRecord

/-- The fields of a record, in order. -/
def fieldNames : List String :=
  ["started_at", "finished_at", "seed", "count", "corpus_dir", "decompiled_dir", "toolchain",
    "report_hash", "total", "passed"]

def members (r : RunRecord) : List (String × Json) :=
  [("started_at", .string r.startedAt), ("finished_at", .string r.finishedAt),
    ("seed", .nat r.seed), ("count", .nat r.count), ("corpus_dir", .string r.corpusDir),
    ("decompiled_dir", .optional .string r.decompiledDir),
    ("toolchain", .optional .string r.toolchain), ("report_hash", .string r.reportHash),
    ("total", .nat r.total), ("passed", .nat r.passed)]

def toJson (r : RunRecord) : Json := .object r.members

/-- The record whose fields are at the given places. -/
def ofSlots? (slot : String → Slot Json) : Option RunRecord := do
  let startedAt ← (slot "started_at").required Document.text?
  let finishedAt ← (slot "finished_at").required Document.text?
  let seed ← (slot "seed").required Document.nat?
  let count ← (slot "count").required Document.nat?
  let corpusDir ← (slot "corpus_dir").required Document.text?
  let decompiledDir ← (slot "decompiled_dir").optional Document.text?
  let toolchain ← (slot "toolchain").optional Document.text?
  let reportHash ← (slot "report_hash").required Document.text?
  let total ← (slot "total").required Document.nat?
  let passed ← (slot "passed").required Document.nat?
  some ⟨startedAt, finishedAt, seed, count, corpusDir, decompiledDir, toolchain, reportHash,
    total, passed⟩

def ofJson? (node : Json) : Option RunRecord :=
  (Document.slots? fieldNames node).bind ofSlots?

end RunRecord

namespace Json

mutual

/-- Whether every literal inside the value has a value. -/
def isReadable : Json → Bool
  | unreadable => false
  | array items => itemsReadable items
  | object members => membersReadable members
  | _ => true

def itemsReadable : List Json → Bool
  | [] => true
  | item :: items => item.isReadable && itemsReadable items

def membersReadable : List (String × Json) → Bool
  | [] => true
  | (_, value) :: members => value.isReadable && membersReadable members

end

end Json

namespace StoredRun

/-- A stored run is one record: the number and the fields of the run beside it. -/
def toJson (run : StoredRun) : Json :=
  .object (("id", .int run.id) :: run.record.members)

/-- A stored run is always read from a record with names, of which every member is read. -/
def ofJson? (node : Json) : Option StoredRun := do
  let .object _ := node | none
  if !node.isReadable then none
  let slot ← Document.slots? ("id" :: RunRecord.fieldNames) node
  let id ← (slot "id").required Document.int?
  let record ← RunRecord.ofSlots? slot
  some ⟨id, record⟩

end StoredRun

namespace StoredVerdict

/-- A verdict; the detail is left out where there is none. -/
def toJson (v : StoredVerdict) : Json :=
  .object ([("case_name", .string v.caseName), ("category", v.category.toJson),
      ("set_index", .nat v.setIndex), ("provenance", v.provenance.toJson),
      ("verdict", v.verdict.toJson)] ++ Json.memberIf "detail" .string v.detail)

end StoredVerdict

namespace Regression

/-- A regression; the detail is left out where there is none. -/
def toJson (r : Regression) : Json :=
  .object ([("case_name", .string r.caseName), ("set_index", .nat r.setIndex),
      ("base", r.base.toJson), ("head", r.head.toJson)] ++
    Json.memberIf "detail" .string r.detail)

end Regression

end Counterpart
