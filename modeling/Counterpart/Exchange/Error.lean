/-
What can go wrong in the exchange with a driver.
-/

namespace Counterpart

/-- Why arguments were not sent or a report was not understood. -/
inductive ExchangeError where
  | arity (expected got : Nat)
  | typeMismatch (param : String)
  | badInput
  | malformed (line : String)
  | unexpectedMemory (index : Nat)
  deriving DecidableEq, Repr

/-- The sentence shown for an exchange error. -/
def ExchangeError.message : ExchangeError → String
  | .arity expected got => s!"expected {expected} arguments, got {got}"
  | .typeMismatch param => "argument '" ++ param ++ "' does not match its declared type"
  | .badInput => "driver rejected its input"
  | .malformed line => "malformed driver line '" ++ line ++ "'"
  | .unexpectedMemory index =>
      s!"driver reported memory for parameter {index}, which is not a mutable pointer"

end Counterpart
