/-
The vocabulary of type names that signatures and recompiled sources may use.  It is
an explicit list: a name that is not on it stands for nothing.
-/
import Counterpart.Scalar.Type

namespace Counterpart

/-- A type name with its meaning and the C type it is defined as. -/
structure TypeName where
  name : String
  scalar : ScalarType
  definition : String
  /-- Whether the name marks a value whose real type was not recovered. -/
  placeholder : Bool
  deriving DecidableEq, Repr

namespace TypeName

/-- The C type behind a name that has no spelling of its own. -/
def plainDefinition : ScalarType → String
  | .int .w1 true => "signed char"
  | .int .w2 true => "short"
  | .int .w4 true => "int"
  | .int .w8 true => "long long"
  | .int .w1 false => "unsigned char"
  | .int .w2 false => "unsigned short"
  | .int .w4 false => "unsigned int"
  | .int .w8 false => "unsigned long long"
  | .f32 => "float"
  | .f64 => "double"

/-- A name for a known type. -/
def plain (name : String) (scalar : ScalarType) : TypeName :=
  ⟨name, scalar, plainDefinition scalar, false⟩

/-- A name for an unsigned container of bytes whose type is not known. -/
def container (name : String) (width : Width) : TypeName :=
  ⟨name, .int width false, plainDefinition (.int width false), true⟩

/-- Every type name, in the order the header defines them. -/
def all : List TypeName :=
  [ plain "int1" (.int .w1 true),
    plain "int2" (.int .w2 true),
    plain "int4" (.int .w4 true),
    plain "int8" (.int .w8 true),
    plain "uint1" (.int .w1 false),
    plain "uint2" (.int .w2 false),
    plain "uint4" (.int .w4 false),
    plain "uint8" (.int .w8 false),
    plain "i8" (.int .w1 true),
    plain "i16" (.int .w2 true),
    plain "i32" (.int .w4 true),
    plain "i64" (.int .w8 true),
    plain "u8" (.int .w1 false),
    plain "u16" (.int .w2 false),
    plain "u32" (.int .w4 false),
    plain "u64" (.int .w8 false),
    plain "float4" .f32,
    plain "float8" .f64,
    plain "bool" (.int .w1 false),
    container "undefined" .w1,
    container "undefined1" .w1,
    container "undefined2" .w2,
    container "undefined4" .w4,
    container "undefined8" .w8,
    container "unk1" .w1,
    container "unk2" .w2,
    container "unk4" .w4,
    container "unk8" .w8,
    container "xunknown1" .w1,
    container "xunknown2" .w2,
    container "xunknown4" .w4,
    container "xunknown8" .w8,
    plain "longlong" (.int .w8 true),
    plain "ulonglong" (.int .w8 false),
    ⟨"ulong", .int .w8 false, "unsigned long", false⟩ ]

/-- The entry of a name. -/
def find? (name : String) : Option TypeName :=
  all.find? (·.name == name)

/-- The number of bytes of a value of the type. -/
def size (t : TypeName) : Nat := t.scalar.size

end TypeName

/-- The type a name stands for. -/
def ScalarType.ofName? (name : String) : Option ScalarType :=
  (TypeName.find? name).map (·.scalar)

end Counterpart
