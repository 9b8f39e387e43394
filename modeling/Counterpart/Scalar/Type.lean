/-
Types of single numeric values: integers of one, two, four or eight bytes with or
without a sign, and floating-point numbers of four or eight bytes.
-/
import Counterpart.Binary.Format
import Counterpart.Word

namespace Counterpart

/-- The width of an integer type. -/
inductive Width where
  | w1 | w2 | w4 | w8
  deriving DecidableEq, Repr

namespace Width

/-- The widths from narrow to wide. -/
def all : List Width := [.w1, .w2, .w4, .w8]

def bytes : Width → Nat
  | .w1 => 1
  | .w2 => 2
  | .w4 => 4
  | .w8 => 8

def bits (w : Width) : Nat := 8 * w.bytes

/-- The width of that many bytes, if there is one. -/
def ofBytes? (n : Nat) : Option Width :=
  all.find? (·.bytes == n)

/-- The word with every bit of the width set. -/
def mask (w : Width) : Word := Word.mask w.bytes

end Width

/-- A fixed-width numeric type. -/
inductive ScalarType where
  | int (width : Width) (signed : Bool)
  | f32
  | f64
  deriving DecidableEq, Repr

namespace ScalarType

/-- The size in bytes. -/
def size : ScalarType → Nat
  | .int width _ => width.bytes
  | .f32 => 4
  | .f64 => 8

def isInteger : ScalarType → Bool
  | .int _ _ => true
  | _ => false

def isFloat (t : ScalarType) : Bool := !t.isInteger

/-- The word with every bit of the type set. -/
def mask (t : ScalarType) : Word := Word.mask t.size

/-- The floating-point format of the type, the one of eight bytes for integers. -/
def format : ScalarType → Binary.Format
  | .f32 => Binary.single
  | _ => Binary.double

/-- The spelling of the type in a generated driver. -/
def declared : ScalarType → String
  | .int .w1 true => "int8_t"
  | .int .w2 true => "int16_t"
  | .int .w4 true => "int32_t"
  | .int .w8 true => "int64_t"
  | .int .w1 false => "uint8_t"
  | .int .w2 false => "uint16_t"
  | .int .w4 false => "uint32_t"
  | .int .w8 false => "uint64_t"
  | .f32 => "float"
  | .f64 => "double"

/-- The name of the type in the vocabulary of signatures. -/
def name : ScalarType → String
  | .int .w1 true => "int1"
  | .int .w2 true => "int2"
  | .int .w4 true => "int4"
  | .int .w8 true => "int8"
  | .int .w1 false => "uint1"
  | .int .w2 false => "uint2"
  | .int .w4 false => "uint4"
  | .int .w8 false => "uint8"
  | .f32 => "float4"
  | .f64 => "float8"

end ScalarType

end Counterpart
