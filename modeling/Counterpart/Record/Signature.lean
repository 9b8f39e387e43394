/-
The JSON forms of types, signatures and cases.
-/
import Counterpart.Record.Basic

namespace Counterpart

namespace Width

def recordName : Width → String
  | .w1 => "W1"
  | .w2 => "W2"
  | .w4 => "W4"
  | .w8 => "W8"

def toJson (w : Width) : Json := .string w.recordName

def ofJson? (node : Json) : Option Width :=
  (Document.label? node).bind fun name => all.find? (·.recordName == name)

end Width

namespace ScalarType

def toJson : ScalarType → Json
  | .int width signed => .tagged "int" (.object [("width", width.toJson), ("signed", .bool signed)])
  | .f32 => .string "f32"
  | .f64 => .string "f64"

def ofJson? (node : Json) : Option ScalarType :=
  match node.choice? with
  | some ("int", some body) => do
      let slot ← Document.slots? ["width", "signed"] body
      let width ← (slot "width").required Width.ofJson?
      let signed ← (slot "signed").required Document.bool?
      some (.int width signed)
  | _ =>
      match Document.label? node with
      | some "f32" => some .f32
      | some "f64" => some .f64
      | _ => none

end ScalarType

namespace LengthExpr

def toJson : LengthExpr → Json
  | const n => .tagged "const" (.nat n)
  | param name => .tagged "param" (.string name)
  | add left right => .tagged "add" (.array [left.toJson, right.toJson])
  | mul left right => .tagged "mul" (.array [left.toJson, right.toJson])

def ofJson? : Json → Option LengthExpr
  | .object [("const", n)] => (Document.nat? n).map const
  | .object [("param", name)] => (Document.text? name).map param
  | .object [("add", .array [left, right])] => do
      let left ← ofJson? left
      let right ← ofJson? right
      some (add left right)
  | .object [("mul", .array [left, right])] => do
      let left ← ofJson? left
      let right ← ofJson? right
      some (mul left right)
  | _ => none

end LengthExpr

namespace ValueType

def toJson : ValueType → Json
  | scalar ty => .tagged "scalar" ty.toJson
  | buffer elem length isMutable =>
      .tagged "buffer"
        (.object [("elem", elem.toJson), ("len", length.toJson), ("mutable", .bool isMutable)])
  | cstring isMutable => .tagged "c_string" (.object [("mutable", .bool isMutable)])
  | bytes size isMutable =>
      .tagged "bytes" (.object [("size", .nat size), ("mutable", .bool isMutable)])
  | aggregate fields =>
      .tagged "aggregate" (.object [("fields", .list ScalarType.toJson fields)])

def bufferOfJson? (body : Json) : Option ValueType := do
  let slot ← Document.slots? ["elem", "len", "mutable"] body
  let elem ← (slot "elem").required ScalarType.ofJson?
  let length ← (slot "len").required LengthExpr.ofJson?
  let isMutable ← (slot "mutable").required Document.bool?
  some (buffer elem length isMutable)

def bytesOfJson? (body : Json) : Option ValueType := do
  let slot ← Document.slots? ["size", "mutable"] body
  let size ← (slot "size").required Document.nat?
  let isMutable ← (slot "mutable").required Document.bool?
  some (bytes size isMutable)

def ofJson? (node : Json) : Option ValueType :=
  match node.choice? with
  | some ("scalar", some body) => (ScalarType.ofJson? body).map scalar
  | some ("buffer", some body) => bufferOfJson? body
  | some ("c_string", some body) => do
      let slot ← Document.slots? ["mutable"] body
      ((slot "mutable").required Document.bool?).map cstring
  | some ("bytes", some body) => bytesOfJson? body
  | some ("aggregate", some body) => do
      let slot ← Document.slots? ["fields"] body
      ((slot "fields").required (Document.list? ScalarType.ofJson?)).map aggregate
  | _ => none

end ValueType

namespace ReturnType

def toJson : ReturnType → Json
  | .void => .string "void"
  | .scalar ty => .tagged "scalar" ty.toJson
  | .pointer => .string "pointer"
  | .cstring => .string "c_string"

def ofJson? (node : Json) : Option ReturnType :=
  match node.choice? with
  | some ("scalar", some body) => (ScalarType.ofJson? body).map .scalar
  | _ =>
      match Document.label? node with
      | some "void" => some .void
      | some "pointer" => some .pointer
      | some "c_string" => some .cstring
      | _ => none

end ReturnType

namespace ValueRange

def toJson (r : ValueRange) : Json :=
  .object [("min", .int r.min), ("max", .int r.max)]

def ofJson? (node : Json) : Option ValueRange := do
  let slot ← Document.slots? ["min", "max"] node
  let min ← (slot "min").required Document.int?
  let max ← (slot "max").required Document.int?
  some ⟨min, max⟩

end ValueRange

namespace Param

/-- A parameter; a range and ignored bytes are left out where there are none. -/
def toJson (p : Param) : Json :=
  .object ([("name", .string p.name), ("ty", p.ty.toJson)] ++
    Json.memberIf "range" ValueRange.toJson p.range ++
    [("nullable", .bool p.nullable)] ++
    if p.ignore.isEmpty then [] else [("ignore", .list ByteRange.toJson p.ignore)])

def ofJson? (node : Json) : Option Param := do
  let slot ← Document.slots? ["name", "ty", "range", "nullable", "ignore"] node
  let name ← (slot "name").required Document.text?
  let ty ← (slot "ty").required ValueType.ofJson?
  let range ← (slot "range").optionalOrAbsent ValueRange.ofJson?
  let nullable ← (slot "nullable").withDefault false Document.bool?
  let ignore ← (slot "ignore").withDefault [] (Document.list? ByteRange.ofNode?)
  some ⟨name, ty, range, nullable, ignore⟩

end Param

namespace Signature

def toJson (sig : Signature) : Json :=
  .object [("name", .string sig.name), ("params", .list Param.toJson sig.params),
    ("ret", sig.ret.toJson)]

def ofJson? (node : Json) : Option Signature := do
  let slot ← Document.slots? ["name", "params", "ret"] node
  let name ← (slot "name").required Document.text?
  let params ← (slot "params").required (Document.list? Param.ofJson?)
  let ret ← (slot "ret").required ReturnType.ofJson?
  some ⟨name, params, ret⟩

end Signature

namespace ReferenceCase

/-- A case; explicit rows are left out where there are none. -/
def toJson (case : ReferenceCase) : Json :=
  .object ([("signature", case.signature.toJson), ("category", case.category.toJson),
      ("tags", .list .string case.tags), ("source", .string case.source)] ++
    if case.explicit.isEmpty then []
    else [("explicit", .list (.list ExplicitValue.toJson) case.explicit)])

def ofJson? (node : Json) : Option ReferenceCase := do
  let slot ← Document.slots? ["signature", "category", "tags", "source", "explicit"] node
  let signature ← (slot "signature").required Signature.ofJson?
  let category ← (slot "category").required Category.ofNode?
  let tags ← (slot "tags").withDefault [] (Document.list? Document.text?)
  let source ← (slot "source").required Document.text?
  let explicit ← (slot "explicit").withDefault []
    (Document.list? (Document.list? ExplicitValue.ofNode?))
  some ⟨signature, category, sortNames tags, source, explicit⟩

end ReferenceCase

end Counterpart
