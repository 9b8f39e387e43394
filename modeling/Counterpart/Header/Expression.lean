/-
C expressions over the arguments of a definition: masks, shifts and casts.  Grouping is
part of an expression, so its text is read off without a table of precedences.
-/
import Counterpart.Scalar.Type
import Counterpart.Text.Numeral

namespace Counterpart

/-- The operators between two operands. -/
inductive COperator where
  | bitAnd
  | bitOr
  | shiftLeft
  | shiftRight
  | times
  deriving DecidableEq, Repr

def COperator.symbol : COperator → String
  | .bitAnd => "&"
  | .bitOr => "|"
  | .shiftLeft => "<<"
  | .shiftRight => ">>"
  | .times => "*"

/-- An expression over named arguments. -/
inductive CExpr where
  | argument (name : String)
  /-- A literal in base ten, of the type `int`. -/
  | number (n : Nat)
  /-- A literal in base sixteen, of the type `unsigned long long`. -/
  | pattern (bits : Word)
  | cast (target : ScalarType) (operand : CExpr)
  | binary (op : COperator) (left right : CExpr)
  /-- An expression in parentheses. -/
  | group (inner : CExpr)
  deriving DecidableEq, Repr

namespace CExpr

/-- The digits of a pattern, in upper case. -/
def patternDigits (bits : Word) : List Char :=
  (Text.hexadecimal bits.toNat).map Text.upperDigit

/-- The text of the expression. -/
def text : CExpr → List Char
  | argument name => name.toList
  | number n => Text.decimal n
  | pattern bits => "0x".toList ++ patternDigits bits ++ "ULL".toList
  | cast target operand => '(' :: target.name.toList ++ ')' :: operand.text
  | binary op left right => left.text ++ ' ' :: op.symbol.toList ++ ' ' :: right.text
  | group inner => '(' :: inner.text ++ [')']

end CExpr

/-- A definition with arguments, as the header writes it. -/
structure CDefinition where
  name : String
  arguments : List String
  body : CExpr
  deriving DecidableEq, Repr

/-- The line of a definition. -/
def CDefinition.line (d : CDefinition) : String :=
  "#define " ++ d.name ++ "(" ++ String.intercalate ", " d.arguments ++ ") " ++
    String.ofList d.body.text

end Counterpart
