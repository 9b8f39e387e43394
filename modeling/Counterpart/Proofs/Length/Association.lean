/-
Sums and products that associate differently.  Re-association keeps how an expression is written,
the parameters it names and its unbounded count; every expression has one re-association in which
all chains lean to the left.
-/
import Counterpart.Length.Expr

namespace Counterpart.LengthExpr

/-- Whether the outermost operation is a product. -/
def isProduct : LengthExpr → Bool
  | mul _ _ => true
  | _ => false

/-- The second expression is the first one with some of its sums and products associated further
to the left. -/
inductive Reassociated : LengthExpr → LengthExpr → Prop
  | refl (e : LengthExpr) : Reassociated e e
  | trans {e f g : LengthExpr} (hfirst : Reassociated e f) (hrest : Reassociated f g) :
      Reassociated e g
  | add {left left' right right' : LengthExpr} (hleft : Reassociated left left')
      (hright : Reassociated right right') : Reassociated (add left right) (add left' right')
  | mul {left left' right right' : LengthExpr} (hleft : Reassociated left left')
      (hright : Reassociated right right') : Reassociated (mul left right) (mul left' right')
  | rotateSum (a b c : LengthExpr) :
      Reassociated (.add a (.add b c)) (.add (.add a b) c)
  | rotateProduct (a b c : LengthExpr) :
      Reassociated (.mul a (.mul b c)) (.mul (.mul a b) c)

/-- No sum is the right operand of a sum, and no product that of a product. -/
def LeftNested : LengthExpr → Prop
  | const _ | param _ => True
  | add left right => left.LeftNested ∧ right.LeftNested ∧ right.isSum = false
  | mul left right => left.LeftNested ∧ right.LeftNested ∧ right.isProduct = false

/-- The terms of a sum, added one by one to what is on the left. -/
def addChain (left : LengthExpr) : LengthExpr → LengthExpr
  | add first last => add (left.addChain first) last
  | e => add left e

/-- The factors of a product, multiplied one by one with what is on the left. -/
def mulChain (left : LengthExpr) : LengthExpr → LengthExpr
  | mul first last => mul (left.mulChain first) last
  | e => mul left e

/-- The expression with every chain of sums and of products associated to the left. -/
def leftAssociated : LengthExpr → LengthExpr
  | add left right => left.leftAssociated.addChain right.leftAssociated
  | mul left right => left.leftAssociated.mulChain right.leftAssociated
  | e => e

theorem addChain_of_isSum {left e : LengthExpr} (he : e.isSum = false) :
    left.addChain e = add left e := by
  cases e with
  | add => cases he
  | const | param | mul => rfl

theorem mulChain_of_isProduct {left e : LengthExpr} (he : e.isProduct = false) :
    left.mulChain e = mul left e := by
  cases e with
  | mul => cases he
  | const | param | add => rfl

theorem addChain_addChain (left middle e : LengthExpr) :
    left.addChain (middle.addChain e) = (left.addChain middle).addChain e := by
  induction e with
  | const | param | mul => rfl
  | add first last ih _ => simp only [addChain, ih]

theorem mulChain_mulChain (left middle e : LengthExpr) :
    left.mulChain (middle.mulChain e) = (left.mulChain middle).mulChain e := by
  induction e with
  | const | param | add => rfl
  | mul first last ih _ => simp only [mulChain, ih]

theorem reassociated_addChain (left e : LengthExpr) :
    Reassociated (add left e) (left.addChain e) := by
  induction e with
  | const | param | mul => exact .refl _
  | add first last ih _ => exact .trans (.rotateSum left first last) (.add ih (.refl last))

theorem reassociated_mulChain (left e : LengthExpr) :
    Reassociated (mul left e) (left.mulChain e) := by
  induction e with
  | const | param | add => exact .refl _
  | mul first last ih _ => exact .trans (.rotateProduct left first last) (.mul ih (.refl last))

theorem reassociated_leftAssociated (e : LengthExpr) : Reassociated e e.leftAssociated := by
  induction e with
  | const | param => exact .refl _
  | add left right ihLeft ihRight =>
      exact .trans (.add ihLeft ihRight) (reassociated_addChain _ _)
  | mul left right ihLeft ihRight =>
      exact .trans (.mul ihLeft ihRight) (reassociated_mulChain _ _)

theorem LeftNested.addChain {left e : LengthExpr} (hleft : left.LeftNested) (he : e.LeftNested) :
    (left.addChain e).LeftNested := by
  induction e with
  | const | param | mul => exact ⟨hleft, he, rfl⟩
  | add first last ih _ => exact ⟨ih he.1, he.2⟩

theorem LeftNested.mulChain {left e : LengthExpr} (hleft : left.LeftNested) (he : e.LeftNested) :
    (left.mulChain e).LeftNested := by
  induction e with
  | const | param | add => exact ⟨hleft, he, rfl⟩
  | mul first last ih _ => exact ⟨ih he.1, he.2⟩

theorem leftNested_leftAssociated (e : LengthExpr) : e.leftAssociated.LeftNested := by
  induction e with
  | const | param => trivial
  | add left right ihLeft ihRight => exact ihLeft.addChain ihRight
  | mul left right ihLeft ihRight => exact ihLeft.mulChain ihRight

/-- Associating to the left changes an expression unless it leans to the left already. -/
theorem leftAssociated_eq_self_iff {e : LengthExpr} : e.leftAssociated = e ↔ e.LeftNested := by
  constructor
  · intro heq
    exact heq ▸ leftNested_leftAssociated e
  · intro hnested
    induction e with
    | const | param => rfl
    | add left right ihLeft ihRight =>
        obtain ⟨hleft, hright, hsum⟩ := hnested
        rw [leftAssociated, ihLeft hleft, ihRight hright, addChain_of_isSum hsum]
    | mul left right ihLeft ihRight =>
        obtain ⟨hleft, hright, hproduct⟩ := hnested
        rw [leftAssociated, ihLeft hleft, ihRight hright, mulChain_of_isProduct hproduct]

theorem Reassociated.leftAssociated {e f : LengthExpr} (h : Reassociated e f) :
    f.leftAssociated = e.leftAssociated := by
  induction h with
  | refl => rfl
  | trans _ _ ihFirst ihRest => exact ihRest.trans ihFirst
  | add _ _ ihLeft ihRight | mul _ _ ihLeft ihRight =>
      simp only [LengthExpr.leftAssociated, ihLeft, ihRight]
  | rotateSum => exact (addChain_addChain _ _ _).symm
  | rotateProduct => exact (mulChain_mulChain _ _ _).symm

/-- There is only one way to associate all chains to the left. -/
theorem Reassociated.eq_leftAssociated {e f : LengthExpr} (h : Reassociated e f)
    (hf : f.LeftNested) : f = e.leftAssociated :=
  (leftAssociated_eq_self_iff.2 hf).symm.trans h.leftAssociated

theorem Reassociated.isSum {e f : LengthExpr} (h : Reassociated e f) : f.isSum = e.isSum := by
  induction h with
  | refl | add | mul | rotateSum | rotateProduct => rfl
  | trans _ _ ihFirst ihRest => exact ihRest.trans ihFirst

/-- Parentheses stand around sums inside products only, and those stay where they are. -/
theorem Reassociated.text {e f : LengthExpr} (h : Reassociated e f) : f.text = e.text := by
  induction h with
  | refl => rfl
  | trans _ _ ihFirst ihRest => exact ihRest.trans ihFirst
  | add _ _ ihLeft ihRight => simp only [LengthExpr.text, ihLeft, ihRight]
  | mul hleft hright ihLeft ihRight =>
      simp only [LengthExpr.text, hleft.isSum, hright.isSum, ihLeft, ihRight]
  | rotateSum a b c => simp [LengthExpr.text]
  | rotateProduct a b c => simp [LengthExpr.text, LengthExpr.isSum]

theorem Reassociated.namesAfter {e f : LengthExpr} (h : Reassociated e f) (seen : List String) :
    f.namesAfter seen = e.namesAfter seen := by
  induction h generalizing seen with
  | refl | rotateSum | rotateProduct => rfl
  | trans _ _ ihFirst ihRest => exact (ihRest seen).trans (ihFirst seen)
  | add _ _ ihLeft ihRight | mul _ _ ihLeft ihRight =>
      simp only [LengthExpr.namesAfter, ihLeft, ihRight]

section

variable (value? : String → Option Nat)

/-- The count under an assignment, in arithmetic without bounds. -/
def count? : LengthExpr → Option Nat
  | const n => some n
  | param name => value? name
  | add left right => do some ((← left.count?) + (← right.count?))
  | mul left right => do some ((← left.count?) * (← right.count?))

/-- Every intermediate result under an assignment fits sixty-four bits. -/
def Fits : LengthExpr → Prop
  | const n => n < 2 ^ 64
  | param name => ∀ n ∈ value? name, n < 2 ^ 64
  | add left right => left.Fits ∧ right.Fits ∧ ∀ n ∈ (add left right).count? value?, n < 2 ^ 64
  | mul left right => left.Fits ∧ right.Fits ∧ ∀ n ∈ (mul left right).count? value?, n < 2 ^ 64

variable {value?}

theorem bind_checked {o : Option Nat} (hfits : ∀ n ∈ o, n < 2 ^ 64) : o.bind checked = o := by
  cases o with
  | none => rfl
  | some n => exact if_pos (hfits n rfl)

/-- Without an overflow the count is the one without bounds. -/
theorem eval?_of_fits {e : LengthExpr} (hfits : e.Fits value?) :
    e.eval? value? = e.count? value? := by
  induction e with
  | const | param => rfl
  | add left right ihLeft ihRight | mul left right ihLeft ihRight =>
      obtain ⟨hleft, hright, hresult⟩ := hfits
      rw [← bind_checked hresult, eval?, count?, ihLeft hleft, ihRight hright]
      cases left.count? value? <;> cases right.count? value? <;> rfl

theorem Reassociated.count? {e f : LengthExpr} (h : Reassociated e f) :
    f.count? value? = e.count? value? := by
  induction h with
  | refl => rfl
  | trans _ _ ihFirst ihRest => exact ihRest.trans ihFirst
  | add _ _ ihLeft ihRight | mul _ _ ihLeft ihRight =>
      simp only [LengthExpr.count?, ihLeft, ihRight]
  | rotateSum a b c =>
      simp only [LengthExpr.count?]
      cases a.count? value? <;> cases b.count? value? <;> cases c.count? value? <;>
        simp [Nat.add_assoc]
  | rotateProduct a b c =>
      simp only [LengthExpr.count?]
      cases a.count? value? <;> cases b.count? value? <;> cases c.count? value? <;>
        simp [Nat.mul_assoc]

/-- Where neither overflows, an expression and its re-association have the same count. -/
theorem Reassociated.eval? {e f : LengthExpr} (h : Reassociated e f) (he : e.Fits value?)
    (hf : f.Fits value?) : f.eval? value? = e.eval? value? := by
  rw [eval?_of_fits he, eval?_of_fits hf, h.count?]

end

end Counterpart.LengthExpr
