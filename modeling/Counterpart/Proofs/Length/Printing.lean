/-
Length expressions as they are written.  The text of an expression is spelled with its tokens,
which derive the expression with all chains associated to the left.
-/
import Counterpart.Proofs.Length.Accepted
import Counterpart.Proofs.Length.Association
import Counterpart.Proofs.Text.Numeral

namespace Counterpart

namespace LengthToken

open Text

theorem not_follows_mark {d : Char} (hd : d ∈ ['+', '*', '(', ')']) (c : Char) :
    follows c d = false := by
  have hpart := not_isIdentifierPart_of_mark d hd
  have hdecimal : isDecimal d = false := by
    rw [isIdentifierPart, Bool.or_eq_false_iff] at hpart
    exact hpart.2
  unfold follows
  split
  · exact hdecimal
  · split
    · exact hpart
    · rfl

theorem ne_nil_of_shape {cs : List Char} (hshape : Shape cs) : cs ≠ [] := by
  rintro rfl
  cases hshape with
  | run hne _ => exact hne rfl
  | identifier hname => cases hname

/-- A piece stays the longest when a mark is put behind the rest. -/
theorem Longest.append {front rest back : List Char} (hshape : Shape front)
    (hlongest : Longest front rest) (hback : ∀ c ∈ back.head?, c ∈ ['+', '*', '(', ')']) :
    Longest front (rest ++ back) := by
  obtain ⟨c, cs, rfl⟩ := List.exists_cons_of_ne_nil (ne_nil_of_shape hshape)
  rw [longest_cons_iff hshape] at hlongest ⊢
  intro d hd
  cases rest with
  | nil => exact not_follows_mark (hback d hd) c
  | cons r rest => exact hlongest d hd

/-- Two texts may be put together if the second one opens with a mark. -/
theorem Spelled.append {front back : List Char} {tokens tokens' : List LengthToken}
    (hfront : Spelled front tokens) (hback : Spelled back tokens')
    (hmark : ∀ c ∈ back.head?, c ∈ ['+', '*', '(', ')']) :
    Spelled (front ++ back) (tokens ++ tokens') := by
  induction hfront with
  | nil => exact hback
  | blank hblank _ ih => exact .blank hblank ih
  | token hdenotes hlongest _ ih =>
      rw [List.append_assoc]
      exact .token hdenotes (hlongest.append hdenotes.shape hmark) ih

/-- A text with one mark in front of it. -/
theorem Spelled.cons_mark {c : Char} {cs : List Char} {token : LengthToken}
    {tokens : List LengthToken} (hdenotes : Denotes [c] token) (hmark : c ∈ ['+', '*', '(', ')'])
    (hrest : Spelled cs tokens) : Spelled (c :: cs) (token :: tokens) := by
  have hlongest : Longest [c] cs :=
    (longest_cons_iff hdenotes.shape).2 fun d _ => follows_of_mark hmark d
  exact .token hdenotes hlongest hrest

/-- A text that is a single token. -/
theorem Denotes.spelled {cs : List Char} {token : LengthToken} (hdenotes : Denotes cs token) :
    Spelled cs [token] := by
  have hlongest : Longest cs [] := by
    intro more hne hprefix
    exact absurd (List.prefix_nil.1 hprefix) hne
  have hspelled := Spelled.token hdenotes hlongest .nil
  rwa [List.append_nil] at hspelled

theorem denotes_decimal {n : Nat} (hn : n < 2 ^ 64) : Denotes (decimal n) (number n) := by
  have hne : decimal n ≠ [] := Nat.toDigits_ne_nil
  have hdigits : ∀ c ∈ decimal n, isDecimal c = true := fun c hc => isDecimal_of_mem_decimal hc
  have hvalue : runValue (decimal n) = n := by
    have hread := digits?_toDigits isBase_ten n
    rw [← decimal, digits?_eq_runValue hne hdigits] at hread
    exact Option.some.inj hread
  have hdenotes := Denotes.number hne hdigits (hvalue.symm ▸ hn)
  rwa [hvalue] at hdenotes

end LengthToken

namespace LengthExpr

open LengthToken (Spelled)

/-- Names are identifiers and constants fit sixty-four bits. -/
def Writable : LengthExpr → Prop
  | const n => n < 2 ^ 64
  | param name => Text.isIdentifier name.toList = true
  | add left right | mul left right => left.Writable ∧ right.Writable

instance decidableWritable : (e : LengthExpr) → Decidable e.Writable
  | const n => inferInstanceAs (Decidable (n < 2 ^ 64))
  | param name => inferInstanceAs (Decidable (Text.isIdentifier name.toList = true))
  | add left right | mul left right =>
      have := decidableWritable left
      have := decidableWritable right
      inferInstanceAs (Decidable (left.Writable ∧ right.Writable))

/-- The tokens of a factor, with parentheses around a sum. -/
def grouped (isSum : Bool) (tokens : List LengthToken) : List LengthToken :=
  if isSum then .openParen :: tokens ++ [.closeParen] else tokens

/-- The tokens of an expression. -/
def tokens : LengthExpr → List LengthToken
  | const n => [.number n]
  | param name => [.name name]
  | add left right => left.tokens ++ .plus :: right.tokens
  | mul left right => grouped left.isSum left.tokens ++ .times :: grouped right.isSum right.tokens

theorem spelled_grouped {e : LengthExpr} {tokens : List LengthToken}
    (hspelled : Spelled e.text tokens) :
    Spelled (if e.isSum then '(' :: e.text ++ [')'] else e.text) (grouped e.isSum tokens) := by
  unfold grouped
  split
  · have hclose := Spelled.cons_mark .closeParen (by decide) .nil
    have hinner := hspelled.append hclose (by simp)
    exact hinner.cons_mark .openParen (by decide)
  · exact hspelled

/-- The text of an expression is spelled with its tokens. -/
theorem spelled_text {e : LengthExpr} (he : e.Writable) : Spelled e.text e.tokens := by
  induction e with
  | const n => exact (LengthToken.denotes_decimal he).spelled
  | param name =>
      have hspelled := (LengthToken.Denotes.name he).spelled
      rwa [String.ofList_toList] at hspelled
  | add left right ihLeft ihRight =>
      have hright := (ihRight he.2).cons_mark .plus (by decide)
      exact (ihLeft he.1).append hright (by simp)
  | mul left right ihLeft ihRight =>
      have hright := (spelled_grouped (ihRight he.2)).cons_mark .times (by decide)
      exact (spelled_grouped (ihLeft he.1)).append hright (by simp)

theorem isSum_leftAssociated (e : LengthExpr) : e.leftAssociated.isSum = e.isSum :=
  (reassociated_leftAssociated e).isSum

theorem isSum_mulChain (left e : LengthExpr) : (left.mulChain e).isSum = false := by
  cases e <;> rfl

theorem isProduct_addChain (left e : LengthExpr) : (left.addChain e).isProduct = false := by
  cases e <;> rfl

/-- What the tokens of an expression derive: alone, behind a plus sign, as a factor, and behind a
times sign.  Behind a sign the chain on the left goes on. -/
structure Derived (e : LengthExpr) : Prop where
  sum : Derives .sum e.tokens e.leftAssociated
  plus : ∀ front left, Derives .sum front left →
    Derives .sum (front ++ .plus :: e.tokens) (left.addChain e.leftAssociated)
  product : Derives .product (grouped e.isSum e.tokens) e.leftAssociated
  times : ∀ front left, Derives .product front left →
    Derives .product (front ++ .times :: grouped e.isSum e.tokens) (left.mulChain e.leftAssociated)

theorem derived_of_atom {e : LengthExpr} (hatom : Derives .atom e.tokens e.leftAssociated)
    (hsum : e.leftAssociated.isSum = false) (hproduct : e.leftAssociated.isProduct = false) :
    Derived e := by
  have hgrouped : grouped e.isSum e.tokens = e.tokens := by
    rw [← isSum_leftAssociated, hsum]
    rfl
  constructor
  · exact .term (.factor hatom)
  · intro front left hfront
    rw [addChain_of_isSum hsum]
    exact .plus hfront (.factor hatom)
  · rw [hgrouped]
    exact .factor hatom
  · intro front left hfront
    rw [hgrouped, mulChain_of_isProduct hproduct]
    exact .times hfront hatom

theorem derived_add {left right : LengthExpr} (hleft : Derived left) (hright : Derived right) :
    Derived (add left right) := by
  have hsum : Derives .sum (add left right).tokens (add left right).leftAssociated :=
    hright.plus _ _ hleft.sum
  have hatom := hsum.parens
  constructor
  · exact hsum
  · intro front first hfront
    have hchain := hright.plus _ _ (hleft.plus front first hfront)
    rwa [← addChain_addChain, List.append_assoc] at hchain
  · exact .factor hatom
  · intro front first hfront
    have hshape : (add left right).leftAssociated.isProduct = false := isProduct_addChain _ _
    rw [mulChain_of_isProduct hshape]
    exact .times hfront hatom

theorem derived_mul {left right : LengthExpr} (hleft : Derived left) (hright : Derived right) :
    Derived (mul left right) := by
  have hproduct : Derives .product (mul left right).tokens (mul left right).leftAssociated :=
    hright.times _ _ hleft.product
  constructor
  · exact .term hproduct
  · intro front first hfront
    have hshape : (mul left right).leftAssociated.isSum = false := isSum_mulChain _ _
    rw [addChain_of_isSum hshape]
    exact .plus hfront hproduct
  · exact hproduct
  · intro front first hfront
    have hchain := hright.times _ _ (hleft.times front first hfront)
    rwa [← mulChain_mulChain, List.append_assoc] at hchain

/-- The tokens of an expression derive it with all chains associated to the left. -/
theorem derived (e : LengthExpr) : Derived e := by
  induction e with
  | const n => exact derived_of_atom (.number n) rfl rfl
  | param name => exact derived_of_atom (.name name) rfl rfl
  | add _ _ ihLeft ihRight => exact derived_add ihLeft ihRight
  | mul _ _ ihLeft ihRight => exact derived_mul ihLeft ihRight

/-- A written expression is read with all chains associated to the left. -/
theorem readIn_text {e : LengthExpr} (he : e.Writable) : readIn e.text = .ok e.leftAssociated :=
  readIn_eq_ok_iff.2 (read_eq_ok_iff.2 ⟨e.tokens, spelled_text he, (derived e).sum⟩)

end LengthExpr

end Counterpart
