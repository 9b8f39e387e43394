/-
What plain scalars stand for.  Null, truth values and numbers are recognised by their
spelling; everything else, and every quoted scalar, is text.
-/
import Counterpart.Binary.Numeral
import Counterpart.Document
import Counterpart.Text.Lines
import Counterpart.Yaml.Node

namespace Counterpart.Yaml

open Text

/-- The spellings of null that are not empty. -/
def nullNames : List String := ["null", "Null", "NULL", "~"]

/-- Whether a plain scalar stands for nothing. -/
def isNull (s : String) : Bool :=
  s.isEmpty || nullNames.contains s

/-- The truth value of a plain scalar. -/
def bool? (s : String) : Option Bool :=
  if ["true", "True", "TRUE"].contains s then some true
  else if ["false", "False", "FALSE"].contains s then some false
  else none

/-- Whether a text opens with a sign. -/
def isSigned : List Char → Bool
  | c :: _ => c == '+' || c == '-'
  | [] => false

/-- The text behind one sign. -/
def unsigned (cs : List Char) : List Char :=
  if isSigned cs then cs.drop 1 else cs

/-- The text behind one plus sign. -/
def withoutPlus : List Char → List Char
  | '+' :: cs => cs
  | cs => cs

/-- Whether a text is digits with zeros in front; such a text is no number. -/
def isPadded (cs : List Char) : Bool :=
  match unsigned cs with
  | '0' :: c :: rest => (c :: rest).all isDecimal
  | _ => false

/-- The bases with a mark of their own. -/
def markedBases : List (List Char × Nat) :=
  [(['0', 'x'], 16), (['0', 'o'], 8), (['0', 'b'], 2)]

/-- The digits behind the mark of a base, as a number. -/
def marked? (cs : List Char) : Option Nat :=
  markedBases.findSome? fun (mark, base) => (dropFront? mark cs).bind (digits? base)

/-- The digits of a number in base ten. -/
def tens? (cs : List Char) : Option Nat :=
  if isPadded cs then none else digits? 10 (unsigned cs)

/-- The magnitude of an integer without a minus sign. -/
def natural? (s : String) : Option Nat :=
  let body := withoutPlus s.toList
  (marked? body).or (if isSigned body then none else tens? body)

/-- The magnitude of an integer with a minus sign. -/
def negative? (s : String) : Option Nat :=
  match s.toList with
  | '-' :: body => (marked? body).or (if isSigned body then none else tens? body)
  | _ => none

/-- The integer of a plain scalar. -/
def int? (s : String) : Option Int :=
  ((natural? s).map Int.ofNat).or ((negative? s).map fun n => -(n : Int))

/-- The floating-point number of a plain scalar. -/
def float? (s : String) : Option Double :=
  let body := withoutPlus s.toList
  if [".inf", ".Inf", ".INF"].contains (String.ofList body) then
    some (Double.ofDatum (.infinite false))
  else if ["-.inf", "-.Inf", "-.INF"].contains s then some (Double.ofDatum (.infinite true))
  else if [".nan", ".NaN", ".NAN"].contains s then some (Double.ofDatum .nan)
  else if s.toList ≠ body ∧ isSigned body then none
  else Double.ofNumeral? body

/-- What a plain scalar holds.  Integers beyond sixty-four bits are not read; those beyond
one hundred and twenty-eight are floating-point numbers. -/
def plainContent (s : String) : Content :=
  if isNull s then .null
  else if (bool? s).isSome then .other
  else
    let read : Option Content := match int? s with
      | some i =>
          if -(2 ^ 63) ≤ i ∧ i < 2 ^ 64 then some (.int i)
          else if -(2 ^ 127) ≤ i ∧ i < 2 ^ 128 then some .other
          else none
      | none => none
    match read with
    | some content => content
    | none =>
        if isPadded s.toList then .text s
        else match float? s with
          | some x => .float x
          | none => .text s

/-- What a node holds. -/
def content : Yaml → Content
  | scalar s plain => if plain then plainContent s else .text s
  | sequence items => .list (contents items)
  | _ => .other
where
  contents : List Yaml → List Content
    | [] => []
    | item :: items => item.content :: contents items

/-- The text of a plain scalar. -/
def plain? : Yaml → Option String
  | scalar s true => some s
  | _ => none

/-- The text of a scalar. -/
def text? : Yaml → Option String
  | scalar s _ => some s
  | _ => none

/-- The values of a mapping by the names of its members.  Nothing stands for a mapping
without members. -/
def slots? (names : List String) : Yaml → Option (String → Slot Yaml)
  | mapping members => do
      let keys ← members.mapM fun (key, _) => key.text?
      if names.all fun name => keys.count name ≤ 1 then
        some fun name => match (keys.zip (members.map (·.2))).lookup name with
          | some value => .given value
          | none => .absent
      else none
  | scalar "" true => some fun _ => .absent
  | _ => none

instance : Document Yaml where
  isNothing node := node.plain?.any isNull
  nat? node := (node.plain?.bind natural?).filter (· < 2 ^ 64)
  int? node := (node.plain?.bind int?).filter fun i => -(2 ^ 63) ≤ i ∧ i < 2 ^ 63
  float? node := node.plain?.bind float?
  bool? node := node.plain?.bind bool?
  text? := text?
  items?
    | sequence items => some items
    | scalar "" true => some []
    | _ => none
  slots? := slots?
  label? := text?
  content := content

/-- The reader of this format, without block scalars, anchors, aliases, tags and directives. -/
def reader : DocumentReader :=
  ⟨Yaml, read?⟩

end Counterpart.Yaml
