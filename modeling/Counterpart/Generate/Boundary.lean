/-
Boundary rows: every parameter at zero, at one, at minus one, at its least and at its
greatest value, and with null pointers where they are allowed.
-/
import Counterpart.Generate.Basic

namespace Counterpart

/-- What a boundary row gives to its parameters. -/
inductive BoundaryRow where
  | zero
  | one
  | minusOne
  | min
  | max
  | null
  deriving DecidableEq, Repr

namespace BoundaryRow

/-- The rows without null pointers. -/
def basic : List BoundaryRow := [zero, one, minusOne, min, max]

/-- The rows of a signature, in order. -/
def rows (sig : Signature) : List BoundaryRow :=
  if sig.hasNullable then basic ++ [null] else basic

/-- The integer of a row for a type with the given ends. -/
def integer (signed : Bool) (least greatest : Int) : BoundaryRow → Int
  | zero => 0
  | one | null => 1
  | minusOne => if signed then -1 else greatest
  | min => least
  | max => greatest

/-- The bits of a row in a floating-point format.  The ends are the numbers of greatest
magnitude. -/
def floatBits (f : Binary.Format) : BoundaryRow → Nat
  | zero => 0
  | one | null => f.encode (.finite false 1 0)
  | minusOne => f.encode (.finite true 1 0)
  | min => f.signed true (f.infinity - 1)
  | max => f.infinity - 1

/-- The least and the greatest integer of a type. -/
def ends (width : Width) (signed : Bool) : Int × Int :=
  if signed then (-(2 ^ (width.bits - 1)), 2 ^ (width.bits - 1) - 1)
  else (0, 2 ^ width.bits - 1)

/-- The value of a row for a scalar, moved into the range if there is one. -/
def scalar (row : BoundaryRow) (ty : ScalarType) (range : Option ValueRange) :
    Except InputError ScalarValue :=
  match ty with
  | .int width signed =>
      let value := row.integer signed (ends width signed).1 (ends width signed).2
      match range with
      | none => .ok (ScalarValue.ofInt ty value)
      | some r =>
          match r.clamp? value with
          | some value => .ok (ScalarValue.ofInt ty value)
          | none => .error .emptyRange
  | _ => .ok (ScalarValue.ofBits ty (BitVec.ofNat 64 (row.floatBits ty.format)))

/-- The value of a row for a scalar without a range. -/
def plainScalar (row : BoundaryRow) (ty : ScalarType) : ScalarValue :=
  match ty with
  | .int width signed =>
      ScalarValue.ofInt ty (row.integer signed (ends width signed).1 (ends width signed).2)
  | _ => ScalarValue.ofBits ty (BitVec.ofNat 64 (row.floatBits ty.format))

/-- The value of a row for a parameter that sizes a buffer. -/
def dimension (row : BoundaryRow) (mid : Nat) (range : Option ValueRange) :
    Except InputError Nat :=
  let raw : Int := match row with
    | zero => 0
    | one | null => 1
    | _ => asSigned mid
  match range with
  | none => .ok raw.toNat
  | some r =>
      match r.clamp? raw with
      | some value => .ok value.toNat
      | none => .error .emptyRange

/-- The byte that fills an object in a row. -/
def fillByte : BoundaryRow → UInt8
  | zero => 0x00
  | one | null => 0x01
  | minusOne => 0xFF
  | min => 0x80
  | max => 0x7F

/-- The string of a row. -/
def string (row : BoundaryRow) (mid : Nat) : Bytes :=
  match row with
  | zero => []
  | one | null => [0x61]
  | _ => List.replicate mid row.fillByte

/-- The value of a row for one parameter. -/
def value (row : BoundaryRow) (config : GeneratorConfig) (dims : Dims) (p : Param) :
    Except InputError ArgValue :=
  if row = null ∧ p.nullable then .ok .null
  else match p.ty with
    | .scalar ty =>
        match dims.lookup p.name with
        | some dim => .ok (.scalar (dimensionValue ty dim))
        | none => (row.scalar ty p.range).map .scalar
    | .buffer elem length _ => do
        let elems ← resolveLength p.name length dims config.maxBufferElems
        .ok (.buffer elem (List.replicate elems (row.plainScalar elem).toBytes).flatten)
    | .cstring _ => .ok (.cstring (row.string config.midLen))
    | .bytes size _ =>
        if config.maxBufferElems < size then
          .error (.bufferTooLarge p.name size config.maxBufferElems)
        else .ok (.bytes (List.replicate size row.fillByte))
    | .aggregate fields => .ok (.aggregate (fields.map row.plainScalar))

/-- The values of a row for the parameters that size buffers. -/
def dims (row : BoundaryRow) (config : GeneratorConfig) (sig : Signature) :
    List String → Except InputError Dims
  | [] => .ok []
  | name :: names => do
      let value ← row.dimension config.midLen (sig.rangeOf? name)
      let rest ← row.dims config sig names
      .ok ((name, value) :: rest)

/-- The arguments of a row. -/
def build (row : BoundaryRow) (config : GeneratorConfig) (sig : Signature) :
    Except InputError (List ArgValue) := do
  let dims ← row.dims config sig sig.dimensions
  sig.params.mapM (row.value config dims)

end BoundaryRow

end Counterpart
