/-
The text a driver reads its arguments from.  A scalar is its bits as one hexadecimal
word; a structure is one word for each field; a pointer is the word `0`, or the word
`1`, the number of bytes and the bytes as pairs of digits.
-/
import Counterpart.Argument.Value
import Counterpart.Exchange.Error
import Counterpart.Signature.Basic

namespace Counterpart.Exchange

open Text

/-- A word and the space behind it. -/
def wordText (bits : Word) : List Char :=
  hexadecimal bits.toNat ++ [' ']

/-- The bytes behind a pointer. -/
def blockText (content : Bytes) : List Char :=
  '1' :: ' ' :: hexadecimal content.length ++ ' ' :: hexBytes content ++ ['\n']

/-- A scalar of the declared type. -/
def scalarText (param : String) (ty : ScalarType) (v : ScalarValue) :
    Except ExchangeError (List Char) :=
  if v.ty = ty then .ok (wordText v.bits) else .error (.typeMismatch param)

/-- The fields of a structure, one word each. -/
def fieldsText (param : String) : List ScalarType → List ScalarValue →
    Except ExchangeError (List Char)
  | [], [] => .ok []
  | ty :: tys, v :: vs => do
      let first ← scalarText param ty v
      let rest ← fieldsText param tys vs
      .ok (first ++ rest)
  | _, _ => .error (.typeMismatch param)

/-- The group of one parameter. -/
def argumentText (p : Param) (v : ArgValue) : Except ExchangeError (List Char) :=
  match p.ty, v with
  | .scalar ty, .scalar v => scalarText p.name ty v
  | .aggregate fields, .aggregate values => fieldsText p.name fields values
  | .buffer _ _ _, .null | .cstring _, .null | .bytes _ _, .null => .ok ['0', '\n']
  | .buffer elem _ _, .buffer got content =>
      if elem = got then .ok (blockText content) else .error (.typeMismatch p.name)
  | .cstring _, .cstring content => .ok (blockText (content ++ [0]))
  | .bytes _ _, .bytes content => .ok (blockText content)
  | _, _ => .error (.typeMismatch p.name)

/-- The groups of the parameters, in order. -/
def argumentsText : List Param → List ArgValue → Except ExchangeError (List Char)
  | p :: ps, v :: vs => do
      let first ← argumentText p v
      let rest ← argumentsText ps vs
      .ok (first ++ rest)
  | _, _ => .ok []

/-- The text of a whole set of arguments. -/
def encode (sig : Signature) (values : List ArgValue) : Except ExchangeError (List Char) :=
  if values.length ≠ sig.params.length then
    .error (.arity sig.params.length values.length)
  else do
    let groups ← argumentsText sig.params values
    .ok (groups ++ ['\n'])

end Counterpart.Exchange
