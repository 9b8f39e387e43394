/-
The tokens of length expressions.  Spaces and tabs separate tokens and are skipped;
a run of digits and an identifier extend as far as they can.
-/
import Counterpart.Text.Identifier

namespace Counterpart

/-- What is wrong with the text of a length expression. -/
inductive LengthFault where
  | empty
  | literalTooLarge
  | unexpectedCharacter (c : Char)
  | unexpectedEnd
  | expectedAtom
  | missingClose
  | trailingTokens
  deriving DecidableEq, Repr

/-- The reason given for a fault. -/
def LengthFault.message : LengthFault → String
  | .empty => "empty"
  | .literalTooLarge => "integer literal too large"
  | .unexpectedCharacter c => "unexpected character '" ++ String.singleton c ++ "'"
  | .unexpectedEnd => "unexpected end"
  | .expectedAtom => "expected a number or name"
  | .missingClose => "missing ')'"
  | .trailingTokens => "trailing tokens"

/-- A token of a length expression. -/
inductive LengthToken where
  | number (n : Nat)
  | name (s : String)
  | plus
  | times
  | openParen
  | closeParen
  deriving DecidableEq, Repr

namespace LengthToken

open Text

/-- The token of a single punctuation character. -/
def ofMark? : Char → Option LengthToken
  | '+' => some plus
  | '*' => some times
  | '(' => some openParen
  | ')' => some closeParen
  | _ => none

theorem length_dropWhile_le (p : α → Bool) (xs : List α) :
    (xs.dropWhile p).length ≤ xs.length := by
  induction xs with
  | nil => simp
  | cons x xs ih =>
      rw [List.dropWhile_cons]
      split
      · exact Nat.le_succ_of_le ih
      · simp

/-- The tokens of a text. -/
def scan : List Char → Except LengthFault (List LengthToken)
  | [] => .ok []
  | c :: cs =>
      if c = ' ' ∨ c = '\t' then scan cs
      else match ofMark? c with
        | some token => (scan cs).map (token :: ·)
        | none =>
            if isDecimal c then
              match (digits? 10 (c :: cs.takeWhile isDecimal)).filter (· < 2 ^ 64) with
              | none => .error .literalTooLarge
              | some n => (scan (cs.dropWhile isDecimal)).map (number n :: ·)
            else if isIdentifierStart c then
              (scan (cs.dropWhile isIdentifierPart)).map
                (name (String.ofList (c :: cs.takeWhile isIdentifierPart)) :: ·)
            else .error (.unexpectedCharacter c)
  termination_by cs => cs.length
  decreasing_by
    all_goals simp only [List.length_cons]
    all_goals first
      | omega
      | exact Nat.lt_succ_of_le (length_dropWhile_le _ _)

end LengthToken

end Counterpart
