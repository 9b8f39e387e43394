/-
Length expressions: how many elements a buffer has, as a constant, the value of an
integer parameter, or a sum or product of those.
-/
import Counterpart.Text.Numeral

namespace Counterpart

/-- The element count of a buffer in terms of integer parameters. -/
inductive LengthExpr where
  | const (n : Nat)
  | param (name : String)
  | add (left right : LengthExpr)
  | mul (left right : LengthExpr)
  deriving DecidableEq, Repr

namespace LengthExpr

/-- The names of the expression behind those already seen, each once. -/
def namesAfter (seen : List String) : LengthExpr → List String
  | const _ => seen
  | param name => if name ∈ seen then seen else seen ++ [name]
  | add left right => right.namesAfter (left.namesAfter seen)
  | mul left right => right.namesAfter (left.namesAfter seen)

/-- The parameters the expression names, each once, in the order of first use. -/
def names (e : LengthExpr) : List String :=
  e.namesAfter []

/-- A count that must fit sixty-four bits. -/
def checked (n : Nat) : Option Nat :=
  if n < 2 ^ 64 then some n else none

/-- The count under an assignment; there is none if a name has no value or an
intermediate result does not fit sixty-four bits. -/
def eval? (value? : String → Option Nat) : LengthExpr → Option Nat
  | const n => some n
  | param name => value? name
  | add left right => do checked ((← left.eval? value?) + (← right.eval? value?))
  | mul left right => do checked ((← left.eval? value?) * (← right.eval? value?))

/-- Whether the outermost operation is a sum. -/
def isSum : LengthExpr → Bool
  | add _ _ => true
  | _ => false

/-- The text of the expression, with parentheses around a sum inside a product. -/
def text : LengthExpr → List Char
  | const n => Text.decimal n
  | param name => name.toList
  | add left right => left.text ++ '+' :: right.text
  | mul left right =>
      (if left.isSum then '(' :: left.text ++ [')'] else left.text) ++ '*' ::
        (if right.isSum then '(' :: right.text ++ [')'] else right.text)

end LengthExpr

end Counterpart
