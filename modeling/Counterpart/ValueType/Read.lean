/-
Reading parameter and result types.

    value  := ["mut "] base
    base   := scalar | scalar "*" | scalar "[" length "]" | "cstr" | "bytes[" INT "]"
            | "struct\x7b" scalar ("," scalar)* "\x7d"
    result := "void" | "ptr" | "cstr" | scalar

Blanks around the parts are skipped, and so are the empty positions of a structure.
-/
import Counterpart.Length.Read
import Counterpart.Scalar.Vocabulary
import Counterpart.Text.Lines
import Counterpart.ValueType.Basic

namespace Counterpart

/-- What is wrong with the shape of a type. -/
inductive ShapeFault where
  | notBraced
  | noFields
  | unterminatedBracket
  | sizeNotConstant
  deriving DecidableEq, Repr

/-- The reason given for a fault. -/
def ShapeFault.message : ShapeFault → String
  | .notBraced => "expected struct\x7b...\x7d"
  | .noFields => "struct needs at least one field"
  | .unterminatedBracket => "unterminated '['"
  | .sizeNotConstant => "bytes[N] needs a constant size"

/-- Why a text is not a type. -/
inductive TypeError where
  | empty
  | unknownType (name : String)
  | mutOnValue (text : String)
  | malformed (text : String) (reason : ShapeFault)
  | badLength (text : String) (reason : LengthFault)
  deriving DecidableEq, Repr

/-- The sentence shown for a type error. -/
def TypeError.message : TypeError → String
  | .empty => "empty type"
  | .unknownType name => "unknown type name '" ++ name ++ "'"
  | .mutOnValue text => "'mut' only applies to pointer types, got '" ++ text ++ "'"
  | .malformed text reason => "malformed type '" ++ text ++ "': " ++ reason.message
  | .badLength text reason =>
      "malformed length expression '" ++ text ++ "': " ++ reason.message

open Text

/-- The scalar type named by a text, apart from blanks around it. -/
def ScalarType.read (cs : List Char) : Except TypeError ScalarType :=
  let name := trim cs
  if name.isEmpty then .error .empty
  else match ScalarType.ofName? (String.ofList name) with
    | some t => .ok t
    | none => .error (.unknownType (String.ofList name))

/-- The length expression of a text. -/
def LengthExpr.readIn (cs : List Char) : Except TypeError LengthExpr :=
  match LengthExpr.read cs with
  | .ok e => .ok e
  | .error fault => .error (.badLength (String.ofList cs) fault)

namespace ValueType

/-- The text between one pair of braces. -/
def braced? (cs : List Char) : Option (List Char) :=
  (dropFront? "\x7b".toList cs).bind (dropBack? "\x7d".toList)

/-- The fields between the commas; empty positions hold none. -/
def readFields (inner : List Char) : Except TypeError (List ScalarType) :=
  ((pieces ',' inner).filter fun piece => !(trim piece).isEmpty).mapM ScalarType.read

/-- A structure, from the text behind its keyword. -/
def readAggregate (whole rest : List Char) : Except TypeError ValueType := do
  match braced? (trim rest) with
  | none => .error (.malformed (String.ofList whole) .notBraced)
  | some inner =>
      let fields ← readFields inner
      if fields.isEmpty then .error (.malformed (String.ofList whole) .noFields)
      else .ok (aggregate fields)

/-- A buffer or an opaque object, from the text on both sides of its first opening
bracket. -/
def readBracketed (whole head tail : List Char) (isMutable : Bool) :
    Except TypeError ValueType := do
  match dropBack? [']'] tail with
  | none => .error (.malformed (String.ofList whole) .unterminatedBracket)
  | some inner =>
      if trim head = "bytes".toList then
        match nat64? (trim inner) with
        | some size => .ok (bytes size isMutable)
        | none => .error (.malformed (String.ofList whole) .sizeNotConstant)
      else do
        let elem ← ScalarType.read (trim head)
        let length ← LengthExpr.readIn inner
        .ok (buffer elem length isMutable)

/-- A type without its mark of mutability.  `whole` is the text that messages quote. -/
def readBase (whole body : List Char) (isMutable : Bool) : Except TypeError ValueType := do
  if body = "cstr".toList then .ok (cstring isMutable)
  else if let some rest := dropFront? "struct".toList body then
    if isMutable then .error (.mutOnValue (String.ofList whole))
    else readAggregate whole rest
  else if let some elem := dropBack? ['*'] body then do
    let elem ← ScalarType.read elem
    .ok (buffer elem (.const 1) isMutable)
  else if '[' ∈ body then
    readBracketed whole (body.takeWhile (· ≠ '[')) ((body.dropWhile (· ≠ '[')).drop 1) isMutable
  else do
    let ty ← ScalarType.read body
    if isMutable then .error (.mutOnValue (String.ofList whole)) else .ok (scalar ty)

/-- The parameter type a text stands for. -/
def read (cs : List Char) : Except TypeError ValueType :=
  let whole := trim cs
  if whole.isEmpty then .error .empty
  else match dropFront? "mut ".toList whole with
    | some rest => readBase whole (trim rest) true
    | none => readBase whole whole false

end ValueType

/-- The result type a text stands for. -/
def ReturnType.read (cs : List Char) : Except TypeError ReturnType :=
  let name := trim cs
  if name.isEmpty then .error .empty
  else if name = "void".toList then .ok .void
  else if name = "ptr".toList then .ok .pointer
  else if name = "cstr".toList then .ok .cstring
  else (ScalarType.read name).map .scalar

end Counterpart
