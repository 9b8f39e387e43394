/-
Infinite results under a tolerance.  The difference of an infinity and any other number is
infinite, and so is every positive share of the greater magnitude, so a tolerance above zero,
however small, lets an infinity pass for any number.  Only without a tolerance are they told
apart.
-/
import Counterpart.Proofs.Binary.Infinity
import Counterpart.Proofs.Comparison.Equivalence

namespace Counterpart

namespace ScalarValue

/-- What the pattern of a floating-point scalar stands for in the format of its type. -/
def datum (v : ScalarValue) : Binary.Datum :=
  v.ty.format.decode v.bits.toNat

theorem datum_eq_nan_iff (v : ScalarValue) : v.datum = .nan ↔ v.IsNaN :=
  v.ty.format.decode_eq_nan_iff v.bits.toNat

/-- Widening keeps infinities. -/
theorem datum_toDouble_infinite {v : ScalarValue} {negative : Bool}
    (hv : v.datum = .infinite negative) : v.toDouble.datum = .infinite negative := by
  obtain ⟨ty, bits⟩ := v
  cases ty with
  | f32 =>
      have hsingle : Binary.single.decode (bits.setWidth 32).toNat = .infinite negative := by
        rw [BitVec.toNat_setWidth, Binary.single.decode_eq_signed _ bits.toNat,
          show Binary.single.decode bits.toNat = _ from hv]
        · rw [← Binary.single.sign_of_decode_infinite hv]
          simp only [Binary.Datum.signed, Binary.Format.signBit, Binary.single]
          congr 2
          omega
        · simp only [Binary.single]
          omega
        · simp only [Binary.single]
          omega
      rw [toDouble, Double.ofSingle, hsingle, Double.datum_ofDatum_infinite]
  | f64 => exact hv
  | int width signed => exact hv

end ScalarValue

namespace Comparison

/-- Exactly one of two scalars is infinite, or both are with opposite signs. -/
inductive InfinitelyApart (a b : ScalarValue) : Prop
  | original (negative : Bool) (hinfinite : a.datum = .infinite negative)
      (hother : ∀ negative, b.datum ≠ .infinite negative)
  | decompiled (negative : Bool) (hinfinite : b.datum = .infinite negative)
      (hother : ∀ negative, a.datum ≠ .infinite negative)
  | opposite (negative : Bool) (hinfinite : a.datum = .infinite negative)
      (hother : b.datum = .infinite !negative)

variable {a b : ScalarValue} {tolerance : Double}

theorem InfinitelyApart.datum_ne (hapart : InfinitelyApart a b) : a.datum ≠ b.datum := by
  intro heq
  cases hapart with
  | original negative hinfinite hother => exact hother negative (heq ▸ hinfinite)
  | decompiled negative hinfinite hother => exact hother negative (heq ▸ hinfinite)
  | opposite negative hinfinite hother =>
      rw [heq, hother] at hinfinite
      cases negative <;> cases hinfinite

theorem InfinitelyApart.exists_infinite (hapart : InfinitelyApart a b) : ∃ negative,
    a.toDouble.datum = .infinite negative ∨ b.toDouble.datum = .infinite negative := by
  cases hapart with
  | original negative hinfinite _ =>
      exact ⟨negative, Or.inl (ScalarValue.datum_toDouble_infinite hinfinite)⟩
  | decompiled negative hinfinite _ =>
      exact ⟨negative, Or.inr (ScalarValue.datum_toDouble_infinite hinfinite)⟩
  | opposite negative hinfinite _ =>
      exact ⟨negative, Or.inl (ScalarValue.datum_toDouble_infinite hinfinite)⟩

theorem InfinitelyApart.not_both_isNaN (hapart : InfinitelyApart a b) :
    ¬ (a.IsNaN ∧ b.IsNaN) := by
  rintro ⟨ha, hb⟩
  rw [← ScalarValue.datum_eq_nan_iff] at ha hb
  exact hapart.datum_ne (ha.trans hb.symm)

/-- The difference and the bound on it are both infinite. -/
theorem sub_le_of_infinite {x y : Double} {negative : Bool} (hpositive : tolerance.IsPositive)
    (hx : x.datum ≠ .nan) (hy : y.datum ≠ .nan) (hne : x.datum ≠ y.datum)
    (hinfinite : x.datum = .infinite negative ∨ y.datum = .infinite negative) :
    (x.sub y).abs.le (tolerance.mul (x.abs.max y.abs)) = true := by
  have hbound : (tolerance.mul (x.abs.max y.abs)).datum = .infinite false :=
    Double.datum_mul_infinite hpositive (Double.datum_max_abs hx hy hinfinite)
  have hdifference : ∃ sign, (x.sub y).datum = .infinite sign := by
    by_cases hleft : ∃ sign, x.datum = .infinite sign
    · obtain ⟨sign, hsign⟩ := hleft
      exact ⟨sign, Double.datum_sub_of_left hsign hy (hsign ▸ hne.symm)⟩
    · rw [not_exists] at hleft
      have hright := hinfinite.resolve_left (hleft negative)
      exact ⟨!negative, Double.datum_sub_of_right hright hx hleft⟩
  obtain ⟨sign, hsign⟩ := hdifference
  simp [Double.le, Double.datum_abs, hsign, hbound, Binary.Datum.signed]

/-- Above zero every tolerance lets an infinity pass for any number. -/
theorem floatsMatch_of_infinitelyApart (hpositive : tolerance.IsPositive)
    (hzero : tolerance.eq Double.zero = false) (hapart : InfinitelyApart a b)
    (ha : ¬ a.IsNaN) (hb : ¬ b.IsNaN) : floatsMatch tolerance a b = true := by
  rw [← ScalarValue.isNaN_toDouble, Bool.not_eq_true] at ha hb
  have hx := Double.isNaN_eq_false_iff.1 ha
  have hy := Double.isNaN_eq_false_iff.1 hb
  obtain ⟨negative, hinfinite⟩ := hapart.exists_infinite
  simp only [floatsMatch, ha, hb, hzero, Bool.or_self, Bool.false_eq_true, if_false]
  split
  · rfl
  · next hdifferent =>
      refine sub_le_of_infinite hpositive hx hy ?_ hinfinite
      -- Equal infinities compare as equal and do not get this far.
      intro hsame
      have hequal : a.toDouble.datum = .infinite negative ∧
          b.toDouble.datum = .infinite negative := by
        rcases hinfinite with hinfinite | hinfinite
        · exact ⟨hinfinite, hsame ▸ hinfinite⟩
        · exact ⟨hsame ▸ hinfinite, hinfinite⟩
      apply hdifferent
      cases negative <;> simp [Double.eq, Double.le, hequal]

/-- Without a tolerance, and against what is no number, an infinity does not pass. -/
theorem floatsMatch_eq_false (hty : a.ty = b.ty) (hapart : InfinitelyApart a b)
    (hexact : tolerance.eq Double.zero = true ∨ a.IsNaN ∨ b.IsNaN) :
    floatsMatch tolerance a b = false := by
  rw [← Bool.not_eq_true]
  intro hmatch
  by_cases hzero : tolerance.eq Double.zero = true
  · rcases (floatsMatch_iff hzero hty).1 hmatch with hboth | hbits
    · exact hapart.not_both_isNaN hboth
    · apply hapart.datum_ne
      rw [ScalarValue.datum, ScalarValue.datum, hty, hbits]
  · have hnan := hexact.resolve_left hzero
    rw [← ScalarValue.isNaN_toDouble, ← ScalarValue.isNaN_toDouble, ← Bool.or_eq_true] at hnan
    rw [floatsMatch, if_pos hnan, Bool.and_eq_true, ScalarValue.isNaN_toDouble,
      ScalarValue.isNaN_toDouble] at hmatch
    exact hapart.not_both_isNaN hmatch

end Comparison

open Comparison

/-- Executions with the same memory are told apart by their results alone. -/
theorem verdict_compare_of_scalars (tolerance : Double) {a b : ScalarValue}
    (hfloat : a.ty.isFloat = true) (hty : a.ty = b.ty) (snapshots : List Snapshot) :
    (compare tolerance (.completed (.scalar a) snapshots)
      (.completed (.scalar b) snapshots)).verdict =
        if floatsMatch tolerance a b then .equivalent else .valueMismatch := by
  have hmemory : memoryDetail? snapshots snapshots = none :=
    memoryDetail?_eq_none_iff.2 (not_memoryDiffers_self snapshots)
  have hreturns : returnsMatch tolerance (.scalar a) (.scalar b) = floatsMatch tolerance a b := by
    rw [returnsMatch, hfloat, Bool.true_and, beq_iff_eq.2 hty, if_pos rfl]
  simp only [compare, hmemory, returnDetail?, hreturns]
  cases floatsMatch tolerance a b <;> rfl

/-- Let one of two results be infinite and the other not the same infinity, and let the memory
agree.  Without a tolerance the results are told apart, and so they are at every tolerance if
the other is no number; but every tolerance above zero, however small, lets the infinity pass
for any other number and for the opposite infinity. -/
theorem compare_infinitelyApart (tolerance : Double)
    (hnonneg : Double.zero.le tolerance = true) {a b : ScalarValue}
    (hfloat : a.ty.isFloat = true) (hty : a.ty = b.ty) (hapart : InfinitelyApart a b)
    (snapshots : List Snapshot) :
    (tolerance.eq Double.zero = true ∨ a.IsNaN ∨ b.IsNaN →
      (compare tolerance (.completed (.scalar a) snapshots)
        (.completed (.scalar b) snapshots)).verdict = .valueMismatch) ∧
    (tolerance.eq Double.zero = false → ¬ a.IsNaN → ¬ b.IsNaN →
      (compare tolerance (.completed (.scalar a) snapshots)
        (.completed (.scalar b) snapshots)).verdict = .equivalent) := by
  rw [verdict_compare_of_scalars tolerance hfloat hty]
  constructor
  · intro hexact
    rw [floatsMatch_eq_false hty hapart hexact]
    rfl
  · intro hzero ha hb
    have hpositive := Double.isPositive_of_le hnonneg hzero
    rw [floatsMatch_of_infinitelyApart hpositive hzero hapart ha hb]
    rfl

namespace Millionth

/-- The tolerance for cases that are marked as sensitive, where nothing else is said. -/
def tolerance : Double := Double.ofDecimal false 1 (-6)

def one : Double := Double.ofNat 1

def infinity : ScalarValue := ⟨.f64, 0x7ff0000000000000⟩

def negativeInfinity : ScalarValue := ⟨.f64, 0xfff0000000000000⟩

def finite : ScalarValue := ⟨.f64, one.bits⟩

/-- One byte was written. -/
def snapshots : List Snapshot := [⟨0, "out", 1, [0, 0xa5], [1, 0xa5], []⟩]

/-- A complete execution with the given result. -/
def run (v : ScalarValue) : Execution := .completed (.scalar v) snapshots

end Millionth

open Millionth in
theorem compare_infinitelyApart_millionth :
    Double.zero.le tolerance = true ∧ infinity.ty.isFloat = true ∧ infinity.ty = finite.ty ∧
      InfinitelyApart infinity finite ∧
      (compare Double.zero (run infinity) (run finite)).verdict = .valueMismatch ∧
      (compare tolerance (run infinity) (run finite)).verdict = .equivalent := by
  have hnonneg : Double.zero.le tolerance = true := by decide
  have hfloat : infinity.ty.isFloat = true := rfl
  have hty : infinity.ty = finite.ty := rfl
  have hapart : InfinitelyApart infinity finite := .original false (by decide) (by decide)
  have hnumbers : ¬ infinity.IsNaN ∧ ¬ finite.IsNaN := by
    rw [← ScalarValue.datum_eq_nan_iff, ← ScalarValue.datum_eq_nan_iff]
    decide
  obtain ⟨hexact, _⟩ :=
    compare_infinitelyApart Double.zero (by decide) hfloat hty hapart snapshots
  obtain ⟨_, hloose⟩ := compare_infinitelyApart tolerance hnonneg hfloat hty hapart snapshots
  exact ⟨hnonneg, hfloat, hty, hapart, hexact (Or.inl (by decide)),
    hloose (by decide +kernel) hnumbers.1 hnumbers.2⟩

open Millionth in
/-- A relative tolerance of a millionth takes the number one and the negative infinity for the
positive infinity. -/
theorem compare_infinite_equivalent_millionth :
    Double.zero.le tolerance = true ∧ tolerance.le one = true ∧ one.le tolerance = false ∧
      InfinitelyApart infinity finite ∧
      (compare tolerance (run infinity) (run finite)).verdict = .equivalent ∧
      InfinitelyApart infinity negativeInfinity ∧
      (compare tolerance (run infinity) (run negativeInfinity)).verdict = .equivalent := by
  exact ⟨by decide, by decide, by decide, .original false (by decide) (by decide),
    by decide +kernel, .opposite false (by decide) (by decide), by decide +kernel⟩

end Counterpart
