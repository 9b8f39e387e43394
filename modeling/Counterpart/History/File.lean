/-
The file of a history: its database as a JSON text.  A file without content is a database
that was never used.
-/
import Counterpart.History.Database
import Counterpart.Json.Read
import Counterpart.Json.Write
import Counterpart.Record.Run
import Counterpart.Text.Utf8

namespace Counterpart

namespace RunRow

def toJson (row : RunRow) : Json :=
  .object [("id", .int row.id), ("started_at", .string row.startedAt),
    ("finished_at", .string row.finishedAt), ("seed", .int row.seed), ("count", .int row.count),
    ("corpus_dir", .string row.corpusDir), ("decompiled_dir", .optional .string row.decompiledDir),
    ("toolchain", .optional .string row.toolchain), ("report_hash", .string row.reportHash),
    ("total", .int row.total), ("passed", .int row.passed)]

def ofJson? (node : Json) : Option RunRow := do
  let slot ← Document.slots? ("id" :: RunRecord.fieldNames) node
  let id ← (slot "id").required Document.int?
  let startedAt ← (slot "started_at").required Document.text?
  let finishedAt ← (slot "finished_at").required Document.text?
  let seed ← (slot "seed").required Document.int?
  let count ← (slot "count").required Document.int?
  let corpusDir ← (slot "corpus_dir").required Document.text?
  let decompiledDir ← (slot "decompiled_dir").optional Document.text?
  let toolchain ← (slot "toolchain").optional Document.text?
  let reportHash ← (slot "report_hash").required Document.text?
  let total ← (slot "total").required Document.int?
  let passed ← (slot "passed").required Document.int?
  some ⟨id, startedAt, finishedAt, seed, count, corpusDir, decompiledDir, toolchain, reportHash,
    total, passed⟩

end RunRow

namespace VerdictRow

def toJson (row : VerdictRow) : Json :=
  .object [("run_id", .int row.runId), ("case_name", .string row.caseName),
    ("category", .string row.category), ("set_index", .int row.setIndex),
    ("provenance", .string row.provenance), ("verdict", .string row.verdict),
    ("detail", .optional .string row.detail)]

def ofJson? (node : Json) : Option VerdictRow := do
  let slot ← Document.slots?
    ["run_id", "case_name", "category", "set_index", "provenance", "verdict", "detail"] node
  let runId ← (slot "run_id").required Document.int?
  let caseName ← (slot "case_name").required Document.text?
  let category ← (slot "category").required Document.text?
  let setIndex ← (slot "set_index").required Document.int?
  let provenance ← (slot "provenance").required Document.text?
  let verdict ← (slot "verdict").required Document.text?
  let detail ← (slot "detail").optional Document.text?
  some ⟨runId, caseName, category, setIndex, provenance, verdict, detail⟩

end VerdictRow

namespace Tables

def toJson (t : Tables) : Json :=
  .object [("has_toolchain", .bool t.hasToolchain), ("last_id", .int t.lastId),
    ("runs", .list RunRow.toJson t.runs), ("verdicts", .list VerdictRow.toJson t.verdicts)]

def ofJson? (node : Json) : Option Tables := do
  let slot ← Document.slots? ["has_toolchain", "last_id", "runs", "verdicts"] node
  let hasToolchain ← (slot "has_toolchain").required Document.bool?
  let lastId ← (slot "last_id").required Document.int?
  let runs ← (slot "runs").required (Document.list? RunRow.ofJson?)
  let verdicts ← (slot "verdicts").required (Document.list? VerdictRow.ofJson?)
  some ⟨hasToolchain, lastId, runs, verdicts⟩

end Tables

namespace Database

def toJson (d : Database) : Json :=
  .object [("history_version", .int d.version), ("tables", .optional Tables.toJson d.tables)]

def ofJson? (node : Json) : Option Database := do
  let .object _ := node | none
  let slot ← Document.slots? ["history_version", "tables"] node
  let version ← (slot "history_version").required Document.int?
  let tables ← (slot "tables").optional Tables.ofJson?
  some ⟨version, tables⟩

/-- The content of the file of a database. -/
def toBytes (d : Database) : Bytes :=
  Text.utf8 d.toJson.compact

/-- The database of a file, from its content. -/
def ofBytes (content : Bytes) : Except HistoryError Database :=
  if content.isEmpty then .ok fresh
  else match ((Text.utf8? content).bind Json.read?).bind ofJson? with
    | some d => .ok d
    | none => .error .damaged

end Database

end Counterpart
