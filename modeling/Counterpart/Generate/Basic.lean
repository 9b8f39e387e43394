/-
What the generation of arguments works with: its limits, the values of the parameters
that size buffers, and the ways in which it fails.
-/
import Counterpart.Argument.Value
import Counterpart.Case

namespace Counterpart

/-- The limits of generation. -/
structure GeneratorConfig where
  /-- The number of elements of middle-sized buffers and strings in boundary rows. -/
  midLen : Nat
  /-- The greatest random value of a parameter that sizes a buffer and has no range. -/
  maxDimension : Nat
  /-- The greatest random length of a string. -/
  maxStringLen : Nat
  /-- The greatest number of elements of a buffer. -/
  maxBufferElems : Nat
  deriving DecidableEq, Repr

/-- The limits that hold where nothing else is said. -/
def GeneratorConfig.default : GeneratorConfig :=
  { midLen := 8, maxDimension := 8, maxStringLen := 16, maxBufferElems := 4096 }

/-- What is wrong with an explicit row. -/
inductive ExplicitFault where
  | arity (expected got : Nat)
  | notOfType (value : ExplicitValue) (ty : ScalarType)
  | notList (param : String) (value : ExplicitValue)
  | nullValue (param : String)
  | elementCount (param : String) (items expected : Nat)
  | notText (param : String) (value : ExplicitValue)
  | byteCount (param : String) (size : Nat)
  | fieldCount (param : String) (expected : Nat)

/-- The reason given for a fault. -/
def ExplicitFault.message : ExplicitFault → String
  | .arity expected got => s!"expected {expected} values, got {got}"
  | .notOfType value ty => String.ofList value.shown ++ " is not a valid " ++ ty.name
  | .notList param value =>
      "expected a list for " ++ param ++ ", got " ++ String.ofList value.shown
  | .nullValue param => "'" ++ param ++ "' is not a pointer and cannot be null"
  | .elementCount param items expected =>
      "'" ++ param ++ s!"' has {items} elements but its length is {expected}"
  | .notText param value =>
      "'" ++ param ++ "' expects a string without NUL, got " ++ String.ofList value.shown
  | .byteCount param size => "'" ++ param ++ s!"' needs exactly {size} bytes"
  | .fieldCount param expected => "'" ++ param ++ s!"' needs {expected} fields"

/-- Why no arguments were generated. -/
inductive InputError where
  | lengthOverflow (param : String)
  | bufferTooLarge (param : String) (elems cap : Nat)
  | explicitRow (row : Nat) (fault : ExplicitFault)
  /-- A value was to be taken from a range whose ends are out of order. -/
  | emptyRange

/-- The sentence shown for a failed generation. -/
def InputError.message : InputError → String
  | .lengthOverflow param => "length of '" ++ param ++ "' overflows"
  | .bufferTooLarge param elems cap =>
      "'" ++ param ++ s!"' needs {elems} elements, above the cap of {cap}"
  | .explicitRow row fault => s!"explicit row {row}: " ++ fault.message
  | .emptyRange => "empty range"

/-- The values of the parameters that size buffers, the latest first. -/
abbrev Dims := List (String × Nat)

/-- The number of elements of a buffer. -/
def resolveLength (param : String) (length : LengthExpr) (dims : Dims) (cap : Nat) :
    Except InputError Nat :=
  match length.eval? (fun name => dims.lookup name) with
  | none => .error (.lengthOverflow param)
  | some elems =>
      if cap < elems then .error (.bufferTooLarge param elems cap) else .ok elems

/-- The range of the first parameter of that name. -/
def Signature.rangeOf? (sig : Signature) (name : String) : Option ValueRange :=
  (sig.find? name).bind (·.range)

/-- An unsigned number of sixty-four bits read with a sign. -/
def asSigned (n : Nat) : Int :=
  (BitVec.ofNat 64 n).toInt

/-- The value of a parameter that sizes buffers, as the parameter takes it. -/
def dimensionValue (ty : ScalarType) (dim : Nat) : ScalarValue :=
  ScalarValue.ofBits ty (BitVec.ofNat 64 dim)

end Counterpart
