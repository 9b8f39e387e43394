/-
Reading length expressions.  Products bind tighter than sums and both associate to
the left.

The reader goes over the tokens once.  For every open parenthesis, and for the whole
text, it keeps a frame: the sum read so far and the product read so far inside the
current term, each waiting for its right operand.
-/
import Counterpart.Length.Expr
import Counterpart.Length.Token

namespace Counterpart.LengthExpr

/-- The operands that wait for their right side, at one level of parentheses. -/
structure Frame where
  sum : Option LengthExpr
  product : Option LengthExpr
  deriving DecidableEq, Repr

namespace Frame

/-- The level at which nothing has been read. -/
def start : Frame := ⟨none, none⟩

/-- The current product once the next factor is known. -/
def multiply (f : Frame) (factor : LengthExpr) : LengthExpr :=
  match f.product with
  | none => factor
  | some left => mul left factor

/-- The current sum once the next term is known. -/
def addTerm (f : Frame) (term : LengthExpr) : LengthExpr :=
  match f.sum with
  | none => term
  | some left => add left term

end Frame

/-- What the reader waits for: an operand at some level, or an operator behind the
product `term`.  The frames of the enclosing levels come innermost first. -/
inductive ReaderState where
  | operand (frame : Frame) (outer : List Frame)
  | operator (frame : Frame) (term : LengthExpr) (outer : List Frame)
  deriving DecidableEq, Repr

namespace ReaderState

/-- The state after one more token. -/
def step : ReaderState → LengthToken → Except LengthFault ReaderState
  | operand frame outer, .number n => .ok (operator frame (frame.multiply (const n)) outer)
  | operand frame outer, .name s => .ok (operator frame (frame.multiply (param s)) outer)
  | operand frame outer, .openParen => .ok (operand Frame.start (frame :: outer))
  | operand _ _, _ => .error .expectedAtom
  | operator frame term outer, .times => .ok (operand { frame with product := some term } outer)
  | operator frame term outer, .plus => .ok (operand ⟨some (frame.addTerm term), none⟩ outer)
  | operator frame term (above :: outer), .closeParen =>
      .ok (operator above (above.multiply (frame.addTerm term)) outer)
  | operator _ _ (_ :: _), _ => .error .missingClose
  | operator _ _ [], _ => .error .trailingTokens

/-- The expression read once the tokens have ended. -/
def finish : ReaderState → Except LengthFault LengthExpr
  | operand _ _ => .error .unexpectedEnd
  | operator frame term [] => .ok (frame.addTerm term)
  | operator _ _ (_ :: _) => .error .missingClose

/-- Reads the remaining tokens. -/
def run (state : ReaderState) : List LengthToken → Except LengthFault LengthExpr
  | [] => state.finish
  | token :: tokens => (state.step token).bind fun next => next.run tokens

end ReaderState

/-- The expression of a nonempty list of tokens. -/
def ofTokens (tokens : List LengthToken) : Except LengthFault LengthExpr :=
  if tokens.isEmpty then .error .empty
  else (ReaderState.operand Frame.start []).run tokens

/-- The expression a text stands for. -/
def read (cs : List Char) : Except LengthFault LengthExpr :=
  (LengthToken.scan cs).bind ofTokens

end Counterpart.LengthExpr
