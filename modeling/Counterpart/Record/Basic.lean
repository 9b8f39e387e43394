/-
Values and their JSON forms.  A record is an object of its fields in order; a choice that
carries nothing is its name, and any other an object of one member, the name with what
it carries.
-/
import Counterpart.Case
import Counterpart.Document
import Counterpart.Text.Hex

namespace Counterpart

namespace Json

/-- A choice with what it carries. -/
def tagged (name : String) (value : Json) : Json :=
  object [(name, value)]

/-- A list of values. -/
def list (f : α → Json) (items : List α) : Json :=
  array (items.map f)

/-- Bytes as a list of numbers. -/
def bytes (content : Bytes) : Json :=
  list (fun b => nat b.toNat) content

end Json

namespace Document

variable {ν : Type} [Document ν]

/-- A list of bytes. -/
def bytes? : ν → Option Bytes :=
  list? byte?

/-- A signed number of thirty-two bits. -/
def int32? (node : ν) : Option Int :=
  (int? node).filter fun i => -(2 ^ 31) ≤ i ∧ i < 2 ^ 31

end Document

namespace ByteRange

def toJson (r : ByteRange) : Json :=
  .object [("offset", .nat r.offset), ("len", .nat r.length)]

/-- The range a node holds. -/
def ofNode? {ν : Type} [Document ν] (node : ν) : Option ByteRange := do
  let slot ← Document.slots? ["offset", "len"] node
  let offset ← (slot "offset").required Document.nat?
  let length ← (slot "len").required Document.nat?
  some ⟨offset, length⟩

end ByteRange

namespace Category

def toJson (c : Category) : Json := .string c.label

/-- The category a node names. -/
def ofNode? {ν : Type} [Document ν] (node : ν) : Option Category :=
  (Document.label? node).bind ofLabel?

end Category

namespace ExplicitValue

/-- The value that content stands for; integers without a sign are only those that do
not fit a signed word. -/
def ofContent? : Content → Option ExplicitValue
  | .null => some null
  | .int i => some (if i < 2 ^ 63 then int i else uint i.toNat)
  | .float x => some (float x)
  | .text s => some (text s)
  | .list items => (ofContents? items).map list
  | .other => none
where
  ofContents? : List Content → Option (List ExplicitValue)
    | [] => some []
    | item :: items => do some ((← ofContent? item) :: (← ofContents? items))

/-- The value a node holds. -/
def ofNode? {ν : Type} [Document ν] (node : ν) : Option ExplicitValue :=
  ofContent? (Document.content node)

def toJson : ExplicitValue → Json
  | null => .null
  | int i => .int i
  | uint n => .nat n
  | float x => .float x
  | text s => .string s
  | list items => .array (toJsons items)
where
  toJsons : List ExplicitValue → List Json
    | [] => []
    | item :: items => toJson item :: toJsons items

end ExplicitValue

end Counterpart
