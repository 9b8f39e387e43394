/-
JSON values.  Objects keep their members in order, and integers are kept apart from
floating-point numbers.
-/
import Counterpart.Binary.Double

namespace Counterpart

/-- A JSON value. -/
inductive Json where
  | null
  | bool (b : Bool)
  /-- An integer that fits sixty-four bits with or without a sign. -/
  | int (i : Int)
  | float (x : Double)
  | string (s : String)
  | array (items : List Json)
  | object (members : List (String × Json))
  /-- A well-formed text without a value: a number beyond the range of floating-point
  numbers, a string with half a surrogate pair, an object with such a name, or an array or
  an object that nests too deep. -/
  | unreadable
  deriving Inhabited

namespace Json

/-- A natural number as a value. -/
def nat (n : Nat) : Json := int n

/-- The value of the first member of that name. -/
def member? (name : String) : Json → Option Json
  | object members => (members.find? (·.1 == name)).map (·.2)
  | _ => none

/-- A text or null. -/
def optional (f : α → Json) : Option α → Json
  | none => null
  | some a => f a

/-- A member that is left out when there is nothing to write. -/
def memberIf (name : String) (f : α → Json) : Option α → List (String × Json)
  | none => []
  | some a => [(name, f a)]

end Json

end Counterpart
