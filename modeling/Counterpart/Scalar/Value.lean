/-
Values of scalar types, kept as bit patterns.
-/
import Counterpart.Binary.Double
import Counterpart.Binary.Shortest
import Counterpart.Scalar.Type
import Counterpart.Text.Hex

namespace Counterpart

/-- A scalar as its bit pattern. -/
structure ScalarValue where
  ty : ScalarType
  bits : Word
  deriving DecidableEq, Repr

namespace ScalarValue

/-- Whether the pattern has no bits outside its type. -/
def Fits (v : ScalarValue) : Prop :=
  v.bits &&& v.ty.mask = v.bits

instance (v : ScalarValue) : Decidable v.Fits :=
  inferInstanceAs (Decidable (_ = _))

/-- The value whose pattern is the part of `bits` inside the type. -/
def ofBits (ty : ScalarType) (bits : Word) : ScalarValue :=
  ⟨ty, bits &&& ty.mask⟩

/-- The value congruent to an integer. -/
def ofInt (ty : ScalarType) (i : Int) : ScalarValue :=
  ofBits ty (BitVec.ofInt 64 i)

/-- The least and the greatest signed integer of 128 bits; a number is brought
between them before it becomes an integer value. -/
def intBounds : Int × Int := (-(2 ^ 127), 2 ^ 127 - 1)

/-- The value nearest to a number; integers take its integer part. -/
def ofDouble (ty : ScalarType) (x : Double) : ScalarValue :=
  match ty with
  | .f32 => ofBits ty (x.toSingle.setWidth 64)
  | .f64 => ofBits ty x.bits
  | .int _ _ => ofInt ty (x.toIntWithin intBounds.1 intBounds.2)

/-- The integer of the pattern, with the sign of the type. -/
def toInt (v : ScalarValue) : Int :=
  match v.ty with
  | .int width true => (v.bits.setWidth width.bits).toInt
  | _ => v.bits.toNat

/-- The number of a floating-point pattern. -/
def toDouble (v : ScalarValue) : Double :=
  match v.ty with
  | .f32 => Double.ofSingle (v.bits.setWidth 32)
  | _ => ⟨v.bits⟩

/-- Byte `i` of a word, counted from its low end. -/
def byteAt (bits : Word) (i : Nat) : UInt8 :=
  ⟨bits.extractLsb' (8 * i) 8⟩

/-- The bytes of the value as they lie in memory, the low one first. -/
def toBytes (v : ScalarValue) : Bytes :=
  (List.range v.ty.size).map (byteAt v.bits)

/-- The word of bytes with the low one first. -/
def wordOfBytes : Bytes → Word
  | [] => 0
  | b :: rest => (wordOfBytes rest <<< 8) ||| b.toBitVec.setWidth 64

/-- The value that lies in memory as the given bytes.  One, two and four bytes are
read as they are and of eight or more the first eight; no other number of bytes is
a value. -/
def ofBytes? (ty : ScalarType) (bytes : Bytes) : Option ScalarValue :=
  match bytes.length with
  | 1 | 2 | 4 => some (ofBits ty (wordOfBytes bytes))
  | n => if n < 8 then none else some (ofBits ty (wordOfBytes (bytes.take 8)))

/-- Numbers are shown with the fewest digits that read back, and with an exponent from
`1e16` on and below `1e-4`. -/
def layout : Binary.Layout :=
  { tie := .up, leastPositional := -4, greatestPositional := 15, plusSign := false,
    nan := "NaN", infinity := "inf" }

/-- How the value is shown. -/
def text (v : ScalarValue) : List Char :=
  match v.ty with
  | .int _ _ => Text.integer v.toInt
  | .f32 => layout.text Binary.single (v.bits.toNat % 2 ^ 32)
  | .f64 => layout.text Binary.double v.bits.toNat

end ScalarValue

end Counterpart
