/-
The grammar of length expressions over tokens.

    sum     := product ("+" product)*
    product := atom ("*" atom)*
    atom    := INT | IDENT | "(" sum ")"

A repetition is read from the left, so the tree of a derivation associates to the left.  The
reader accepts what the grammar derives, with the tree of the derivation.
-/
import Counterpart.Length.Read

namespace Counterpart.LengthExpr

/-- The phrases of the grammar. -/
inductive Phrase where
  | sum
  | product
  | atom
  deriving DecidableEq, Repr

/-- The tokens of a phrase with the tree of their derivation. -/
inductive Derives : Phrase → List LengthToken → LengthExpr → Prop
  | number (n : Nat) : Derives .atom [.number n] (const n)
  | name (s : String) : Derives .atom [.name s] (param s)
  | parens {tokens : List LengthToken} {e : LengthExpr} (hinner : Derives .sum tokens e) :
      Derives .atom (.openParen :: tokens ++ [.closeParen]) e
  | factor {tokens : List LengthToken} {e : LengthExpr} (hatom : Derives .atom tokens e) :
      Derives .product tokens e
  | times {front back : List LengthToken} {left right : LengthExpr}
      (hleft : Derives .product front left) (hright : Derives .atom back right) :
      Derives .product (front ++ .times :: back) (mul left right)
  | term {tokens : List LengthToken} {e : LengthExpr} (hproduct : Derives .product tokens e) :
      Derives .sum tokens e
  | plus {front back : List LengthToken} {left right : LengthExpr}
      (hleft : Derives .sum front left) (hright : Derives .product back right) :
      Derives .sum (front ++ .plus :: back) (add left right)

open ReaderState

/-- What the reader does with the tokens of a phrase, whatever comes behind them.  An atom is the
next factor wherever an operand is awaited, a product is a term where a term starts, and a sum
fills a level of parentheses. -/
def Accepts (tokens : List LengthToken) (e : LengthExpr) : Phrase → Prop
  | .atom => ∀ frame outer rest, (operand frame outer).run (tokens ++ rest) =
      (operator frame (frame.multiply e) outer).run rest
  | .product => ∀ sum outer rest, ∃ left, (operand ⟨sum, none⟩ outer).run (tokens ++ rest) =
      (operator ⟨sum, left⟩ e outer).run rest
  | .sum => ∀ outer rest, ∃ frame term, frame.addTerm term = e ∧
      (operand Frame.start outer).run (tokens ++ rest) = (operator frame term outer).run rest

theorem accepts_parens {tokens : List LengthToken} {e : LengthExpr}
    (hinner : Accepts tokens e .sum) :
    Accepts (.openParen :: tokens ++ [.closeParen]) e .atom := by
  intro frame outer rest
  obtain ⟨inner, term, hterm, hrun⟩ := hinner (frame :: outer) (.closeParen :: rest)
  calc (operand frame outer).run (.openParen :: tokens ++ [.closeParen] ++ rest)
      = (operand Frame.start (frame :: outer)).run (tokens ++ .closeParen :: rest) := by
        simp [run, step, Except.bind]
    _ = (operator inner term (frame :: outer)).run (.closeParen :: rest) := hrun
    _ = (operator frame (frame.multiply e) outer).run rest := by
        simp [run, step, Except.bind, hterm]

theorem accepts_times {front back : List LengthToken} {left right : LengthExpr}
    (hleft : Accepts front left .product) (hright : Accepts back right .atom) :
    Accepts (front ++ .times :: back) (mul left right) .product := by
  intro sum outer rest
  obtain ⟨before, hrun⟩ := hleft sum outer (.times :: (back ++ rest))
  refine ⟨some left, ?_⟩
  calc (operand ⟨sum, none⟩ outer).run (front ++ .times :: back ++ rest)
      = (operator ⟨sum, before⟩ left outer).run (.times :: (back ++ rest)) := by
        rw [← hrun]
        simp
    _ = (operand ⟨sum, some left⟩ outer).run (back ++ rest) := rfl
    _ = (operator ⟨sum, some left⟩ (mul left right) outer).run rest := hright _ outer rest

theorem accepts_plus {front back : List LengthToken} {left right : LengthExpr}
    (hleft : Accepts front left .sum) (hright : Accepts back right .product) :
    Accepts (front ++ .plus :: back) (add left right) .sum := by
  intro outer rest
  obtain ⟨frame, term, hterm, hrun⟩ := hleft outer (.plus :: (back ++ rest))
  obtain ⟨before, hback⟩ := hright (some left) outer rest
  refine ⟨⟨some left, before⟩, right, rfl, ?_⟩
  calc (operand Frame.start outer).run (front ++ .plus :: back ++ rest)
      = (operator frame term outer).run (.plus :: (back ++ rest)) := by
        rw [← hrun]
        simp
    _ = (operand ⟨some left, none⟩ outer).run (back ++ rest) := by
        rw [← hterm]
        rfl
    _ = (operator ⟨some left, before⟩ right outer).run rest := hback

/-- The reader accepts what the grammar derives. -/
theorem accepts_of_derives {phrase : Phrase} {tokens : List LengthToken} {e : LengthExpr}
    (hderives : Derives phrase tokens e) : Accepts tokens e phrase := by
  induction hderives with
  | number n => exact fun frame outer rest => rfl
  | name s => exact fun frame outer rest => rfl
  | parens _ ih => exact accepts_parens ih
  | factor _ ih => exact fun sum outer rest => ⟨none, ih ⟨sum, none⟩ outer rest⟩
  | times _ _ ihLeft ihRight => exact accepts_times ihLeft ihRight
  | term _ ih =>
      intro outer rest
      obtain ⟨left, hrun⟩ := ih none outer rest
      exact ⟨⟨none, left⟩, _, rfl, hrun⟩
  | plus _ _ ihLeft ihRight => exact accepts_plus ihLeft ihRight

theorem ne_nil_of_derives {phrase : Phrase} {tokens : List LengthToken} {e : LengthExpr}
    (hderives : Derives phrase tokens e) : tokens ≠ [] := by
  induction hderives with
  | number | name | parens => simp
  | factor _ ih | term _ ih => exact ih
  | times | plus => simp

theorem ofTokens_of_derives {tokens : List LengthToken} {e : LengthExpr}
    (hderives : Derives .sum tokens e) : ofTokens tokens = .ok e := by
  obtain ⟨frame, term, hterm, hrun⟩ := accepts_of_derives hderives [] []
  rw [List.append_nil] at hrun
  rw [ofTokens, if_neg (by simpa using ne_nil_of_derives hderives), hrun, run, finish, hterm]

end Counterpart.LengthExpr
