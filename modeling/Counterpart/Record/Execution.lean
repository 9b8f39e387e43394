/-
The JSON forms of arguments and executions.
-/
import Counterpart.Argument.Value
import Counterpart.Execution
import Counterpart.Record.Signature

namespace Counterpart

namespace ScalarValue

def toJson (v : ScalarValue) : Json :=
  .object [("ty", v.ty.toJson), ("bits", .nat v.bits.toNat)]

def ofJson? (node : Json) : Option ScalarValue := do
  let slot ← Document.slots? ["ty", "bits"] node
  let ty ← (slot "ty").required ScalarType.ofJson?
  let bits ← (slot "bits").required Document.nat?
  some ⟨ty, BitVec.ofNat 64 bits⟩

end ScalarValue

namespace ArgValue

def toJson : ArgValue → Json
  | scalar v => .tagged "scalar" v.toJson
  | buffer elem content =>
      .tagged "buffer" (.object [("elem", elem.toJson), ("bytes", .bytes content)])
  | cstring content => .tagged "c_string" (.bytes content)
  | bytes content => .tagged "bytes" (.bytes content)
  | aggregate fields => .tagged "aggregate" (.list ScalarValue.toJson fields)
  | null => .string "null"

def ofJson? (node : Json) : Option ArgValue :=
  match node.choice? with
  | some ("scalar", some body) => (ScalarValue.ofJson? body).map scalar
  | some ("buffer", some body) => do
      let slot ← Document.slots? ["elem", "bytes"] body
      let elem ← (slot "elem").required ScalarType.ofJson?
      let content ← (slot "bytes").required Document.bytes?
      some (buffer elem content)
  | some ("c_string", some body) => (Document.bytes? body).map cstring
  | some ("bytes", some body) => (Document.bytes? body).map bytes
  | some ("aggregate", some body) => (Document.list? ScalarValue.ofJson? body).map aggregate
  | _ => if Document.label? node = some "null" then some null else none

end ArgValue

namespace Provenance

def toJson (p : Provenance) : Json := .string p.label

def ofJson? (node : Json) : Option Provenance :=
  (Document.label? node).bind ofLabel?

end Provenance

namespace ArgumentSet

def toJson (set : ArgumentSet) : Json :=
  .object [("index", .nat set.index), ("provenance", set.provenance.toJson),
    ("values", .list ArgValue.toJson set.values)]

def ofJson? (node : Json) : Option ArgumentSet := do
  let slot ← Document.slots? ["index", "provenance", "values"] node
  let index ← (slot "index").required Document.nat?
  let provenance ← (slot "provenance").required Provenance.ofJson?
  let values ← (slot "values").required (Document.list? ArgValue.ofJson?)
  some ⟨index, provenance, values⟩

end ArgumentSet

namespace PointerTarget

def toJson : PointerTarget → Json
  | null => .string "null"
  | param index offset =>
      .tagged "param" (.object [("param", .nat index), ("offset", .nat offset)])
  | foreign => .string "foreign"

def ofJson? (node : Json) : Option PointerTarget :=
  match node.choice? with
  | some ("param", some body) => do
      let slot ← Document.slots? ["param", "offset"] body
      let index ← (slot "param").required Document.nat?
      let offset ← (slot "offset").required Document.nat?
      some (param index offset)
  | _ =>
      match Document.label? node with
      | some "null" => some null
      | some "foreign" => some foreign
      | _ => none

end PointerTarget

namespace ReturnValue

def toJson : ReturnValue → Json
  | void => .string "void"
  | scalar v => .tagged "scalar" v.toJson
  | pointer target => .tagged "pointer" target.toJson
  | str content => .tagged "str" (.optional .bytes content)

def ofJson? (node : Json) : Option ReturnValue :=
  match node.choice? with
  | some ("scalar", some body) => (ScalarValue.ofJson? body).map scalar
  | some ("pointer", some body) => (PointerTarget.ofJson? body).map pointer
  | some ("str", some body) =>
      if Document.isNothing body then some (str none)
      else (Document.bytes? body).map fun content => str (some content)
  | _ => if Document.label? node = some "void" then some void else none

end ReturnValue

namespace Snapshot

def toJson (s : Snapshot) : Json :=
  .object [("param", .nat s.param), ("name", .string s.name),
    ("logical_len", .nat s.logicalLen), ("before", .bytes s.before), ("after", .bytes s.after),
    ("ignore", .list ByteRange.toJson s.ignore)]

def ofJson? (node : Json) : Option Snapshot := do
  let slot ←
    Document.slots? ["param", "name", "logical_len", "before", "after", "ignore"] node
  let param ← (slot "param").required Document.nat?
  let name ← (slot "name").required Document.text?
  let logicalLen ← (slot "logical_len").required Document.nat?
  let before ← (slot "before").required Document.bytes?
  let after ← (slot "after").required Document.bytes?
  let ignore ← (slot "ignore").required (Document.list? ByteRange.ofNode?)
  some ⟨param, name, logicalLen, before, after, ignore⟩

end Snapshot

namespace Fault

def toJson : Fault → Json
  | signal number => .tagged "signal" (.int number)
  | exit code => .tagged "exit" (.int code)
  | timeout => .string "timeout"
  | garbled reason => .tagged "protocol" (.string reason)

def ofJson? (node : Json) : Option Fault :=
  match node.choice? with
  | some ("signal", some body) => (Document.int32? body).map signal
  | some ("exit", some body) => (Document.int32? body).map exit
  | some ("protocol", some body) => (Document.text? body).map garbled
  | _ => if Document.label? node = some "timeout" then some timeout else none

end Fault

namespace Execution

def toJson : Execution → Json
  | completed ret snapshots =>
      .tagged "completed"
        (.object [("ret", ret.toJson), ("snapshots", .list Snapshot.toJson snapshots)])
  | faulted fault => .tagged "faulted" fault.toJson

def ofJson? (node : Json) : Option Execution :=
  match node.choice? with
  | some ("completed", some body) => do
      let slot ← Document.slots? ["ret", "snapshots"] body
      let ret ← (slot "ret").required ReturnValue.ofJson?
      let snapshots ← (slot "snapshots").required (Document.list? Snapshot.ofJson?)
      some (completed ret snapshots)
  | some ("faulted", some body) => (Fault.ofJson? body).map faulted
  | _ => none

end Execution

end Counterpart
