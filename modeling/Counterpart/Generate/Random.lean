/-
Random rows, drawn from a stream.  A quarter of the scalars take a boundary value, so
that ends of ranges turn up in combination with everything else.
-/
import Counterpart.Generate.Boundary
import Counterpart.Random.Draw

namespace Counterpart.RandomRow

/-- A computation that draws from a stream and may fail. -/
abbrev Sample := StateT Stream (Except InputError)

/-- A draw that cannot fail. -/
def draw (d : Draw α) : Sample α := fun s => .ok (d.run s)

/-- A result that needs no draw. -/
def settled (result : Except InputError α) : Sample α := fun s => result.map (·, s)

/-- One of the boundary rows without null pointers. -/
def pickRow : Draw BoundaryRow := do
  pure (BoundaryRow.basic.getD (← Draw.below64 BoundaryRow.basic.length) .zero)

/-- An integer between two others. -/
def between (low high : Int) : Sample Int := do
  match ← draw (Draw.between low high) with
  | some i => pure i
  | none => settled (.error .emptyRange)

/-- A scalar without a range. -/
def plainScalar (ty : ScalarType) : Draw ScalarValue := do
  match ← Draw.below32 4 with
  | 0 => pure ((← pickRow).plainScalar ty)
  | 1 | 2 =>
      match ty with
      | .int _ true => pure (ScalarValue.ofInt ty (-16 + (← Draw.below64 33)))
      | .int _ false => pure (ScalarValue.ofInt ty (← Draw.below64 33))
      | _ => pure (ScalarValue.ofDouble ty (← Draw.thousand Draw.patience))
  | _ => pure (ScalarValue.ofBits ty (BitVec.ofNat 64 (← Draw.word64)))

/-- A scalar, within its range if it has one. -/
def scalar (ty : ScalarType) (range : Option ValueRange) : Sample ScalarValue := do
  match ty, range with
  | .int _ _, some r =>
      if ← draw (Draw.chance 1 4) then
        settled ((← draw pickRow).scalar ty (some r))
      else pure (ScalarValue.ofInt ty (← between r.min r.max))
  | _, _ => draw (plainScalar ty)

/-- The ends between which a parameter that sizes a buffer is drawn. -/
def dimensionEnds (range : Option ValueRange) (maxDimension : Nat) : Int × Int :=
  match range with
  | none => (0, asSigned maxDimension)
  | some r =>
      let low := max r.min 0
      let reach := max (-(2 ^ 63)) (min (2 ^ 63 - 1) (low + asSigned maxDimension))
      (low, max low (min r.max reach))

/-- The value of a parameter that sizes a buffer. -/
def dimension (range : Option ValueRange) (maxDimension : Nat) : Sample Nat := do
  let (low, high) := dimensionEnds range maxDimension
  pure (← between low high).toNat

/-- A byte of a string: mostly one that can be shown, never zero. -/
def stringByte : Draw UInt8 := do
  if ← Draw.chance 3 4 then Draw.byteBetween 0x20 0x7E else Draw.byteBetween 1 255

/-- `count` draws one after another. -/
def times (count : Nat) (d : Draw α) : Draw (List α) :=
  match count with
  | 0 => pure []
  | count + 1 => do
      let first ← d
      let rest ← times count d
      pure (first :: rest)

/-- A string of at most `maxLen` bytes. -/
def string (maxLen : Nat) : Draw Bytes := do
  times (← Draw.below64 (maxLen + 1)) stringByte

/-- The value of one parameter. -/
def value (config : GeneratorConfig) (dims : Dims) (p : Param) : Sample ArgValue := do
  if p.nullable then
    if ← draw (Draw.chance 1 8) then return .null
  match p.ty with
  | .scalar ty =>
      match dims.lookup p.name with
      | some dim => pure (.scalar (dimensionValue ty dim))
      | none => pure (.scalar (← scalar ty p.range))
  | .buffer elem length _ =>
      let elems ← settled (resolveLength p.name length dims config.maxBufferElems)
      let values ← draw (times elems (plainScalar elem))
      pure (.buffer elem (values.flatMap (·.toBytes)))
  | .cstring _ => pure (.cstring (← draw (string config.maxStringLen)))
  | .bytes size _ =>
      if config.maxBufferElems < size then
        settled (.error (.bufferTooLarge p.name size config.maxBufferElems))
      else pure (.bytes (← draw (times size Draw.byte)))
  | .aggregate fields => pure (.aggregate (← draw (fields.mapM plainScalar)))

/-- The values of the parameters that size buffers. -/
def dims (config : GeneratorConfig) (sig : Signature) : List String → Sample Dims
  | [] => pure []
  | name :: names => do
      let value ← dimension (sig.rangeOf? name) config.maxDimension
      let rest ← dims config sig names
      pure ((name, value) :: rest)

/-- The arguments of one row. -/
def build (config : GeneratorConfig) (sig : Signature) : Sample (List ArgValue) := do
  let dims ← dims config sig sig.dimensions
  sig.params.mapM (value config dims)

end Counterpart.RandomRow
