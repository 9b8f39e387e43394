/-
Which signatures can be run.  Names are checked first, over all parameters; then the
parameters are checked one after another, and the first fault is reported.
-/
import Counterpart.Signature.Basic
import Counterpart.Text.Identifier

namespace Counterpart

/-- Why a signature cannot be run. -/
inductive SignatureError where
  | invalidName (name : String)
  | duplicateParam (function param : String)
  | unknownLengthParam (function param referenced : String)
  | nonIntegerLengthParam (function param : String)
  | invalidRange (function param : String)
  | rangeOnNonInteger (function param : String)
  | nullableNonPointer (function param : String)
  | invalidIgnoreRange (function param : String)
  | emptyAggregate (function param : String)
  | zeroSizedBytes (function param : String)
  deriving DecidableEq, Repr

/-- The sentence shown for a signature error. -/
def SignatureError.message : SignatureError → String
  | .invalidName name => "'" ++ name ++ "' is not a valid C identifier"
  | .duplicateParam function param => function ++ ": duplicate parameter '" ++ param ++ "'"
  | .unknownLengthParam function param referenced =>
      function ++ ": length of '" ++ param ++ "' references unknown parameter '" ++
        referenced ++ "'"
  | .nonIntegerLengthParam function param =>
      function ++ ": length parameter '" ++ param ++ "' must be an integer scalar"
  | .invalidRange function param =>
      function ++ ": parameter '" ++ param ++ "' has an invalid range"
  | .rangeOnNonInteger function param =>
      function ++ ": only integer parameters accept a range ('" ++ param ++ "')"
  | .nullableNonPointer function param =>
      function ++ ": only pointer parameters can be nullable ('" ++ param ++ "')"
  | .invalidIgnoreRange function param =>
      function ++ ": ignored bytes of '" ++ param ++ "' fall outside the pointed-to object"
  | .emptyAggregate function param =>
      function ++ ": aggregate '" ++ param ++ "' needs at least one field"
  | .zeroSizedBytes function param =>
      function ++ ": opaque object '" ++ param ++ "' must have a non-zero size"

/-- Passes if the condition holds. -/
def require (condition : Bool) (error : ε) : Except ε Unit :=
  if condition then .ok () else .error error

namespace Signature

/-- Every name is an identifier and none occurs among those before it. -/
def checkNames (function : String) : List String → List Param → Except SignatureError Unit
  | _, [] => .ok ()
  | seen, p :: ps => do
      require (Text.isIdentifier p.name.toList) (.invalidName p.name)
      require (p.name ∉ seen) (.duplicateParam function p.name)
      checkNames function (p.name :: seen) ps

/-- Every name in a length is an integer parameter. -/
def checkLength (sig : Signature) (p : Param) : List String → Except SignatureError Unit
  | [] => .ok ()
  | name :: names =>
      match sig.find? name with
      | none => .error (.unknownLengthParam sig.name p.name name)
      | some q => do
          require q.ty.integer?.isSome (.nonIntegerLengthParam sig.name name)
          checkLength sig p names

/-- A range stands on an integer parameter, is not empty, and admits no negative
number of elements. -/
def checkRange (sig : Signature) (p : Param) : Except SignatureError Unit :=
  match p.range with
  | none => .ok ()
  | some r => do
      require p.ty.integer?.isSome (.rangeOnNonInteger sig.name p.name)
      require (r.min ≤ r.max && !(p.name ∈ sig.dimensions && r.min < 0))
        (.invalidRange sig.name p.name)

/-- Objects passed by value or by address have at least one byte. -/
def checkSize (sig : Signature) (p : Param) : Except SignatureError Unit :=
  match p.ty with
  | .aggregate fields => require (!fields.isEmpty) (.emptyAggregate sig.name p.name)
  | .bytes size _ => require (size != 0) (.zeroSizedBytes sig.name p.name)
  | _ => .ok ()

/-- Ignored bytes are not empty and lie in the object, as far as its size is known. -/
def ignoreFits (p : Param) : Bool :=
  p.ignore.isEmpty ||
    match p.ty with
    | .bytes size _ => p.ignore.all fun r => r.finish ≤ size && 0 < r.length
    | .buffer _ _ _ => p.ignore.all fun r => 0 < r.length
    | _ => false

/-- The checks of one parameter, in the order in which they are reported. -/
def checkParam (sig : Signature) (p : Param) : Except SignatureError Unit := do
  checkLength sig p p.ty.lengthNames
  checkRange sig p
  require (!p.nullable || p.ty.isPointer) (.nullableNonPointer sig.name p.name)
  checkSize sig p
  require (ignoreFits p) (.invalidIgnoreRange sig.name p.name)

/-- The checks of the parameters, one after another. -/
def checkParams (sig : Signature) : List Param → Except SignatureError Unit
  | [] => .ok ()
  | p :: ps => do
      checkParam sig p
      checkParams sig ps

/-- Passes exactly the signatures that can be run. -/
def validate (sig : Signature) : Except SignatureError Unit := do
  require (Text.isIdentifier sig.name.toList) (.invalidName sig.name)
  checkNames sig.name [] sig.params
  checkParams sig sig.params

end Signature

end Counterpart
