/-
Explicit rows: values written in a manifest, converted to the types of the parameters.
A parameter that sizes buffers follows the lists written for them.
-/
import Counterpart.Generate.Basic
import Counterpart.Text.Utf8

namespace Counterpart.ExplicitRow

/-- The value of a type that is written; a number with a fraction is none for an
integer, and an integer too great for a sign is none for a floating-point type. -/
def scalar (ty : ScalarType) (value : ExplicitValue) : Except ExplicitFault ScalarValue :=
  match ty, value with
  | .int _ _, .int i => .ok (ScalarValue.ofInt ty i)
  | .int _ _, .uint n => .ok (ScalarValue.ofBits ty (BitVec.ofNat 64 n))
  | .f32, .float x | .f64, .float x => .ok (ScalarValue.ofDouble ty x)
  | .f32, .int i | .f64, .int i => .ok (ScalarValue.ofDouble ty (Double.ofInt i))
  | _, _ => .error (.notOfType value ty)

/-- The items of a list. -/
def items (param : String) (value : ExplicitValue) : Except ExplicitFault (List ExplicitValue) :=
  match value with
  | .list items => .ok items
  | _ => .error (.notList param value)

/-- The integers written for parameters that size buffers; a negative one counts as
zero. -/
def writtenDims (sig : Signature) (values : List ExplicitValue) : List String → Dims
  | [] => []
  | name :: names =>
      match (sig.indexOf? name).bind fun i => values[i]? with
      | some (.int i) => (name, i.toNat) :: writtenDims sig values names
      | _ => writtenDims sig values names

/-- The sizes of the lists written for buffers whose length is one parameter, the last
first. -/
def listDims : List (Param × ExplicitValue) → Dims → Dims
  | [], dims => dims
  | (p, value) :: rest, dims =>
      match p.ty, value with
      | .buffer _ (.param name) _, .list items => listDims rest ((name, items.length) :: dims)
      | _, _ => listDims rest dims

/-- The values of the parameters that size buffers. -/
def dims (sig : Signature) (values : List ExplicitValue) : Dims :=
  listDims (sig.params.zip values) (writtenDims sig values sig.dimensions)

/-- The value of a parameter other than null. -/
def value (row : Nat) (config : GeneratorConfig) (dims : Dims) (p : Param)
    (written : ExplicitValue) : Except InputError ArgValue := do
  let inRow {α : Type} (result : Except ExplicitFault α) : Except InputError α :=
    result.mapError (.explicitRow row)
  match p.ty with
  | .scalar ty =>
      match dims.lookup p.name with
      | some dim => .ok (.scalar (dimensionValue ty dim))
      | none => (inRow (scalar ty written)).map .scalar
  | .buffer elem length _ =>
      let items ← inRow (items p.name written)
      let elems ← resolveLength p.name length dims config.maxBufferElems
      if elems ≠ items.length then
        .error (.explicitRow row (.elementCount p.name items.length elems))
      else
        let values ← inRow (items.mapM (scalar elem))
        .ok (.buffer elem (values.flatMap (·.toBytes)))
  | .cstring _ =>
      match written with
      | .text s =>
          let content := Text.utf8 s.toList
          if 0 ∈ content then .error (.explicitRow row (.notText p.name written))
          else .ok (.cstring content)
      | _ => .error (.explicitRow row (.notText p.name written))
  | .bytes size _ =>
      let items ← inRow (items p.name written)
      if items.length ≠ size then .error (.explicitRow row (.byteCount p.name size))
      else
        let values ← inRow (items.mapM (scalar (.int .w1 false)))
        .ok (.bytes (values.map fun v => UInt8.ofNat v.bits.toNat))
  | .aggregate fields =>
      let items ← inRow (items p.name written)
      if items.length ≠ fields.length then
        .error (.explicitRow row (.fieldCount p.name fields.length))
      else
        let values ← inRow ((fields.zip items).mapM fun (ty, item) => scalar ty item)
        .ok (.aggregate values)

/-- The value of a parameter. -/
def valueOrNull (row : Nat) (config : GeneratorConfig) (dims : Dims) :
    Param × ExplicitValue → Except InputError ArgValue
  | (p, .null) =>
      if p.ty.isPointer then .ok .null else .error (.explicitRow row (.nullValue p.name))
  | (p, written) => value row config dims p written

/-- The arguments of the row with a given number. -/
def build (row : Nat) (config : GeneratorConfig) (sig : Signature)
    (values : List ExplicitValue) : Except InputError (List ArgValue) :=
  if values.length ≠ sig.params.length then
    .error (.explicitRow row (.arity sig.params.length values.length))
  else (sig.params.zip values).mapM (valueOrNull row config (dims sig values))

end Counterpart.ExplicitRow
