/-
Signatures of the functions under comparison: a name, parameters in order with the
constraints on their values, and the type of the result.
-/
import Counterpart.ValueType.Basic

namespace Counterpart

/-- The inclusive range of values an integer parameter is given. -/
structure ValueRange where
  min : Int
  max : Int
  deriving DecidableEq, Repr

/-- The value moved to the nearer end if it lies outside; an empty range has no ends. -/
def ValueRange.clamp? (r : ValueRange) (value : Int) : Option Int :=
  if r.max < r.min then none
  else if value < r.min then some r.min
  else if r.max < value then some r.max
  else some value

/-- Bytes of an object that carry no meaning, such as padding. -/
structure ByteRange where
  offset : Nat
  length : Nat
  deriving DecidableEq, Repr

namespace ByteRange

/-- The position behind the range, as a word of sixty-four bits. -/
def finish (r : ByteRange) : Nat :=
  (r.offset + r.length) % 2 ^ 64

def contains (r : ByteRange) (index : Nat) : Bool :=
  r.offset ≤ index && index < r.finish

end ByteRange

/-- A parameter with the constraints on what it is given. -/
structure Param where
  name : String
  ty : ValueType
  range : Option ValueRange
  nullable : Bool
  ignore : List ByteRange
  deriving DecidableEq, Repr

/-- A function under comparison. -/
structure Signature where
  name : String
  params : List Param
  ret : ReturnType
  deriving DecidableEq, Repr

/-- A name put into a strictly ascending list of names. -/
def insertName (name : String) : List String → List String
  | [] => [name]
  | other :: rest =>
      if name < other then name :: other :: rest
      else if name = other then other :: rest
      else other :: insertName name rest

/-- The names of a list in ascending order, each once. -/
def sortNames (names : List String) : List String :=
  names.foldr insertName []

namespace Signature

/-- The position of the first parameter of that name. -/
def indexOf? (sig : Signature) (name : String) : Option Nat :=
  sig.params.findIdx? (·.name == name)

/-- The first parameter of that name. -/
def find? (sig : Signature) (name : String) : Option Param :=
  sig.params.find? (·.name == name)

/-- The names that determine the length of some buffer, in ascending order. -/
def dimensions (sig : Signature) : List String :=
  sortNames (sig.params.flatMap (·.ty.lengthNames))

/-- Whether some parameter may be null. -/
def hasNullable (sig : Signature) : Bool :=
  sig.params.any (·.nullable)

/-- How one parameter is written. -/
def paramText (p : Param) : List Char :=
  p.ty.text ++ ' ' :: p.name.toList ++
    (match p.range with
      | some r => " in ".toList ++ Text.integer r.min ++ "..=".toList ++ Text.integer r.max
      | none => []) ++
    (if p.nullable then " nullable".toList else [])

/-- Parameters with a comma and a space between each two. -/
def paramsText : List Param → List Char
  | [] => []
  | [p] => paramText p
  | p :: ps => paramText p ++ ", ".toList ++ paramsText ps

/-- How the signature is written. -/
def text (sig : Signature) : List Char :=
  sig.name.toList ++ '(' :: paramsText sig.params ++ ") -> ".toList ++ sig.ret.text

end Signature

end Counterpart
