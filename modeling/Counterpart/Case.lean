/-
Reference cases: a signature together with where its source is found, what it
exercises, and argument rows picked by hand.
-/
import Counterpart.Binary.Double
import Counterpart.Scalar.Value
import Counterpart.Signature.Basic
import Counterpart.Text.Quoted

namespace Counterpart

/-- The pattern of code that a case exercises. -/
inductive Category where
  | aggregateAccess
  | arithmetic
  | bitwise
  | controlFlow
  | dynamicMemory
  | pointerAccess
  | recursion
  | stringOps
  | typeConversion
  deriving DecidableEq, Repr

namespace Category

/-- Every category, in the order of the labels. -/
def all : List Category :=
  [.aggregateAccess, .arithmetic, .bitwise, .controlFlow, .dynamicMemory, .pointerAccess,
    .recursion, .stringOps, .typeConversion]

def label : Category → String
  | .aggregateAccess => "aggregate_access"
  | .arithmetic => "arithmetic"
  | .bitwise => "bitwise"
  | .controlFlow => "control_flow"
  | .dynamicMemory => "dynamic_memory"
  | .pointerAccess => "pointer_access"
  | .recursion => "recursion"
  | .stringOps => "string_ops"
  | .typeConversion => "type_conversion"

/-- The category of a label. -/
def ofLabel? (label : String) : Option Category :=
  all.find? (·.label == label)

end Category

/-- A value written in a manifest: a number for a scalar, a text for a string, a list
for a buffer, an object or a structure, and null for a null pointer. -/
inductive ExplicitValue where
  | null
  | int (i : Int)
  | uint (n : Nat)
  | float (x : Double)
  | text (s : String)
  | list (items : List ExplicitValue)
deriving Inhabited

namespace ExplicitValue

mutual

/-- How the value is shown in messages. -/
def shown : ExplicitValue → List Char
  | null => "Null(())".toList
  | int i => "Int(".toList ++ Text.integer i ++ [')']
  | uint n => "UInt(".toList ++ Text.decimal n ++ [')']
  | float x => "Float(".toList ++ ScalarValue.layout.text Binary.double x.bits.toNat ++ [')']
  | text s => "Text(".toList ++ Text.quoted s.toList ++ [')']
  | list items => "List([".toList ++ shownItems items ++ "])".toList

/-- The values with a comma and a space between each two. -/
def shownItems : List ExplicitValue → List Char
  | [] => []
  | [item] => shown item
  | item :: items => shown item ++ ", ".toList ++ shownItems items

end

end ExplicitValue

/-- One function of the reference corpus. -/
structure ReferenceCase where
  signature : Signature
  category : Category
  /-- Labels in ascending order, each once. -/
  tags : List String
  /-- The path of the source, relative to the corpus. -/
  source : String
  /-- Argument rows picked by hand. -/
  explicit : List (List ExplicitValue)

namespace ReferenceCase

def name (case : ReferenceCase) : String := case.signature.name

/-- The tag of cases whose results are compared with the wider tolerance. -/
def floatSensitiveTag : String := "float_sensitive"

def isFloatSensitive (case : ReferenceCase) : Bool :=
  case.tags.contains floatSensitiveTag

end ReferenceCase

end Counterpart
