/-
Documents that records are read from.  A document format says how to view a node as
a number, a text, a list or a record; the readers of the records are written once for
all formats.  Reading has no messages: a node either has the wanted form or not.
-/
import Counterpart.Json.Basic

namespace Counterpart

/-- What a record holds in one of its places. -/
inductive Slot (ν : Type) where
  | given (node : ν)
  /-- The record has names and this one is missing. -/
  | absent
  /-- The record is a list that ends before this place. -/
  | beyond

/-- What a node holds, when nothing else is asked of it. -/
inductive Content where
  | null
  | int (i : Int)
  | float (x : Double)
  | text (s : String)
  | list (items : List Content)
  /-- A truth value, a record, or a value that cannot be read. -/
  | other

/-- A document format, given by the views of its nodes. -/
class Document (ν : Type) where
  /-- Whether the node stands for nothing where a value is optional. -/
  isNothing : ν → Bool
  /-- A number of sixty-four bits without a sign. -/
  nat? : ν → Option Nat
  /-- A number of sixty-four bits with a sign. -/
  int? : ν → Option Int
  float? : ν → Option Double
  bool? : ν → Option Bool
  text? : ν → Option String
  items? : ν → Option (List ν)
  /-- The place of every given name; no name may occur twice. -/
  slots? : List String → ν → Option (String → Slot ν)
  /-- The name of a choice that carries nothing. -/
  label? : ν → Option String
  content : ν → Content

namespace Slot

variable {ν : Type}

/-- A value that must be there. -/
def required (read? : ν → Option α) : Slot ν → Option α
  | given node => read? node
  | _ => none

/-- A value with a substitute for when it is not there. -/
def withDefault (default : α) (read? : ν → Option α) : Slot ν → Option α
  | given node => read? node
  | _ => some default

/-- A value that may be nothing; in a list its place must be there. -/
def optional [Document ν] (read? : ν → Option α) : Slot ν → Option (Option α)
  | given node => if Document.isNothing node then some none else (read? node).map some
  | absent => some none
  | beyond => none

/-- A value that may be nothing or not there. -/
def optionalOrAbsent [Document ν] (read? : ν → Option α) : Slot ν → Option (Option α)
  | given node => if Document.isNothing node then some none else (read? node).map some
  | _ => some none

end Slot

namespace Document

variable {ν : Type} [Document ν]

/-- A list whose items all have the wanted form. -/
def list? (read? : ν → Option α) (node : ν) : Option (List α) :=
  (items? node).bind fun items => items.mapM read?

/-- A number below a bound. -/
def natBelow? (bound : Nat) (node : ν) : Option Nat :=
  (nat? node).filter (· < bound)

/-- A byte. -/
def byte? (node : ν) : Option UInt8 :=
  (natBelow? 256 node).map UInt8.ofNat

end Document

namespace Json

/-- The places of the names among the members of an object or the items of a list. -/
def slots? (names : List String) : Json → Option (String → Slot Json)
  | object members =>
      if names.all fun name => (members.countP (·.1 == name)) ≤ 1 then
        some fun name => match members.find? (·.1 == name) with
          | some (_, value) => .given value
          | none => .absent
      else none
  | array items =>
      if items.length ≤ names.length then
        some fun name => match names.idxOf? name with
          | some i => match items[i]? with
              | some item => .given item
              | none => .beyond
          | none => .absent
      else none
  | _ => none

/-- The name of a choice and the value it carries, if it carries one. -/
def choice? : Json → Option (String × Option Json)
  | string name => some (name, none)
  | object [(name, value)] => some (name, some value)
  | _ => none

/-- The name of a choice that carries nothing. -/
def label? (value : Json) : Option String :=
  match value.choice? with
  | some (name, none) => some name
  | some (name, some null) => some name
  | _ => none

/-- What the value holds. -/
def content : Json → Content
  | null => .null
  | int i => .int i
  | float x => .float x
  | string s => .text s
  | array items => .list (contents items)
  | _ => .other
where
  contents : List Json → List Content
    | [] => []
    | item :: items => item.content :: contents items

instance : Document Json where
  isNothing
    | null => true
    | _ => false
  nat?
    | int i => if 0 ≤ i ∧ i < 2 ^ 64 then some i.toNat else none
    | _ => none
  int?
    | int i => if -(2 ^ 63) ≤ i ∧ i < 2 ^ 63 then some i else none
    | _ => none
  float?
    | float x => some x
    | int i => some (Double.ofInt i)
    | _ => none
  bool?
    | bool b => some b
    | _ => none
  text?
    | string s => some s
    | _ => none
  items?
    | array items => some items
    | _ => none
  slots? := slots?
  label? := label?
  content := content

end Json

/-- A reader of documents in one format, with the views of what it reads.  What is read from
a document in the YAML format takes its reader as an argument. -/
structure DocumentReader where
  Node : Type
  [document : Document Node]
  /-- The document of a text, if the text is one. -/
  read? : List Char → Option Node

attribute [instance] DocumentReader.document

end Counterpart
