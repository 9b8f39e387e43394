/-
Types of parameters and of results, and how they are written.
-/
import Counterpart.Length.Expr
import Counterpart.Scalar.Type

namespace Counterpart

/-- The type of a parameter. -/
inductive ValueType where
  /-- A single number. -/
  | scalar (ty : ScalarType)
  /-- A pointer to `length` elements. -/
  | buffer (elem : ScalarType) (length : LengthExpr) (isMutable : Bool)
  /-- A pointer to a string that ends with a zero byte. -/
  | cstring (isMutable : Bool)
  /-- A pointer to an object of `size` bytes whose structure is not known. -/
  | bytes (size : Nat) (isMutable : Bool)
  /-- A structure passed by value. -/
  | aggregate (fields : List ScalarType)
  deriving DecidableEq, Repr

namespace ValueType

def isPointer : ValueType → Bool
  | buffer _ _ _ | cstring _ | bytes _ _ => true
  | _ => false

def isMutable : ValueType → Bool
  | buffer _ _ m | cstring m | bytes _ m => m
  | _ => false

/-- Whether the type is a pointer through which the function may write. -/
def isMutablePointer (t : ValueType) : Bool :=
  t.isPointer && t.isMutable

/-- Width and sign of an integer parameter. -/
def integer? : ValueType → Option (Width × Bool)
  | scalar (.int width signed) => some (width, signed)
  | _ => none

/-- The names in the length of a buffer. -/
def lengthNames : ValueType → List String
  | buffer _ length _ => length.names
  | _ => []

/-- Scalar names with a comma between each two. -/
def fieldsText : List ScalarType → List Char
  | [] => []
  | [t] => t.name.toList
  | t :: ts => t.name.toList ++ ',' :: fieldsText ts

/-- The type without the mark of mutability. -/
def baseText : ValueType → List Char
  | scalar t => t.name.toList
  | buffer elem length _ => elem.name.toList ++ '[' :: length.text ++ [']']
  | cstring _ => "cstr".toList
  | bytes size _ => "bytes[".toList ++ Text.decimal size ++ [']']
  | aggregate fields => "struct\x7b".toList ++ fieldsText fields ++ "\x7d".toList

/-- How the type is written. -/
def text (t : ValueType) : List Char :=
  (if t.isMutable then "mut ".toList else []) ++ t.baseText

end ValueType

/-- The type of a result. -/
inductive ReturnType where
  | void
  | scalar (ty : ScalarType)
  | pointer
  | cstring
  deriving DecidableEq, Repr

/-- How a result type is written. -/
def ReturnType.text : ReturnType → List Char
  | .void => "void".toList
  | .scalar t => t.name.toList
  | .pointer => "ptr".toList
  | .cstring => "cstr".toList

end Counterpart
