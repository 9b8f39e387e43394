/-
Arguments of one call: the values, what lies in memory behind them, and the line that
shows them in reports.
-/
import Counterpart.Scalar.Value

namespace Counterpart

/-- The value given to one parameter. -/
inductive ArgValue where
  | scalar (v : ScalarValue)
  /-- Elements as they lie in memory. -/
  | buffer (elem : ScalarType) (content : Bytes)
  /-- A string without the zero byte behind it. -/
  | cstring (content : Bytes)
  | bytes (content : Bytes)
  | aggregate (fields : List ScalarValue)
  | null
  deriving DecidableEq, Repr

namespace ArgValue

/-- The bytes placed behind a pointer. -/
def pointee? : ArgValue → Option Bytes
  | buffer _ content | bytes content => some content
  | cstring content => some (content ++ [0])
  | _ => none

def scalar? : ArgValue → Option ScalarValue
  | scalar v => some v
  | _ => none

/-- Bytes cut into chunks of `size`, the last one as long as it comes out. -/
def chunks (size : Nat) (content : Bytes) : List Bytes :=
  if 0 < size ∧ content ≠ [] then
    content.take size :: chunks size (content.drop size)
  else []
  termination_by content.length
  decreasing_by
    rename_i h
    have := List.length_pos_iff.2 h.2
    simp only [List.length_drop]
    omega

/-- The elements of a buffer; a chunk at the end that is no value spoils it. -/
def elements? (elem : ScalarType) (content : Bytes) : Option (List ScalarValue) :=
  (chunks elem.size content).mapM (ScalarValue.ofBytes? elem)

/-- How a byte of a string is shown. -/
def escapeByte (b : UInt8) : List Char :=
  if b = 0x22 then ['\\', '"']
  else if b = 0x5C then ['\\', '\\']
  else if 0x20 ≤ b ∧ b ≤ 0x7E then [Char.ofNat b.toNat]
  else '\\' :: 'x' :: Text.hexByte b

/-- Values with a comma between each two. -/
def listText : List ScalarValue → List Char
  | [] => []
  | [v] => v.text
  | v :: vs => v.text ++ ',' :: listText vs

/-- How the value is shown; a buffer that ends inside an element cannot be. -/
def text? : ArgValue → Option (List Char)
  | scalar v => some v.text
  | buffer elem content =>
      (elements? elem content).map fun values => '[' :: listText values ++ [']']
  | cstring content => some ('"' :: content.flatMap escapeByte ++ ['"'])
  | bytes content => some ("bytes:".toList ++ Text.hexBytes content)
  | aggregate fields => some ('\x7b' :: listText fields ++ ['\x7d'])
  | null => some "NULL".toList

end ArgValue

/-- Where the arguments of a call come from. -/
inductive Provenance where
  | boundary
  | random
  | explicit
  deriving DecidableEq, Repr

namespace Provenance

def all : List Provenance := [.boundary, .random, .explicit]

def label : Provenance → String
  | .boundary => "boundary"
  | .random => "random"
  | .explicit => "explicit"

/-- The provenance of a label. -/
def ofLabel? (label : String) : Option Provenance :=
  all.find? (·.label == label)

end Provenance

/-- The arguments of one call, in the order of the parameters. -/
structure ArgumentSet where
  index : Nat
  provenance : Provenance
  values : List ArgValue
  deriving DecidableEq, Repr

namespace ArgumentSet

/-- Values with a comma and a space between each two. -/
def valuesText? : List ArgValue → Option (List Char)
  | [] => some []
  | [v] => v.text?
  | v :: vs => do some ((← v.text?) ++ ", ".toList ++ (← valuesText? vs))

/-- The line that shows the arguments. -/
def text? (set : ArgumentSet) : Option (List Char) :=
  (valuesText? set.values).map fun values =>
    '#' :: Text.decimal set.index ++ ' ' :: set.provenance.label.toList ++ " (".toList ++
      values ++ [')']

end ArgumentSet

end Counterpart
