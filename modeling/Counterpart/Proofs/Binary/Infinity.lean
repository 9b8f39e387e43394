/-
How infinities pass through the arithmetic.  An infinity less a finite number or less the
opposite infinity is infinite, the greater of two magnitudes is infinite if one of them is, and
so is a positive number times an infinity.
-/
import Counterpart.Proofs.Binary.NaN

namespace Counterpart

namespace Binary

/-- The datum with a given sign. -/
def Datum.signed (negative : Bool) : Datum → Datum
  | .nan => .nan
  | .infinite _ => .infinite negative
  | .finite _ mantissa exponent => .finite negative mantissa exponent

namespace Format

/-- Patterns with the same exponent and fraction fields differ at most in their signs. -/
theorem decode_eq_signed (f : Format) (bits bits' : Nat)
    (hfield : bits / 2 ^ f.fractionBits % 2 ^ f.exponentBits =
      bits' / 2 ^ f.fractionBits % 2 ^ f.exponentBits)
    (hfraction : bits % 2 ^ f.fractionBits = bits' % 2 ^ f.fractionBits) :
    f.decode bits = (f.decode bits').signed (bits / f.signBit % 2 == 1) := by
  simp only [decode, hfield, hfraction]
  split
  · split <;> rfl
  · split <;> rfl

/-- The sign of an infinite pattern is its sign bit. -/
theorem sign_of_decode_infinite (f : Format) {bits : Nat} {negative : Bool}
    (hbits : f.decode bits = .infinite negative) : (bits / f.signBit % 2 == 1) = negative := by
  have hsigned := f.decode_eq_signed bits bits rfl rfl
  rw [hbits] at hsigned
  exact (Datum.infinite.inj hsigned).symm

end Format

end Binary

namespace Double

open Binary

variable {x y tolerance : Double} {negative : Bool}

theorem datum_abs (x : Double) : x.abs.datum = x.datum.signed false := by
  have hmask : (~~~ BitVec.twoPow 64 63).toNat = 2 ^ 63 - 1 := by decide
  have hbits : x.abs.bits.toNat = x.bits.toNat % 2 ^ 63 := by
    rw [abs, BitVec.toNat_and, hmask, Nat.and_two_pow_sub_one_eq_mod]
  have hsign : (x.abs.bits.toNat / double.signBit % 2 == 1) = false := by
    simp only [hbits, Format.signBit, double]
    rw [beq_eq_false_iff_ne]
    omega
  rw [datum, double.decode_eq_signed _ x.bits.toNat, hsign, datum]
  · simp only [hbits, double]
    omega
  · simp only [hbits, double]
    omega

/-- Negating turns the sign bit over and leaves the fields. -/
theorem datum_neg (x : Double) :
    x.neg.datum = x.datum.signed (!(x.bits.toNat / double.signBit % 2 == 1)) := by
  have hbits : x.neg.bits.toNat = x.bits.toNat ^^^ 2 ^ 63 := by
    rw [neg, BitVec.toNat_xor]
    rfl
  have hsign : x.neg.bits.toNat / double.signBit % 2 = x.bits.toNat / double.signBit % 2 ^^^ 1 := by
    rw [hbits]
    exact (congrArg (· % 2) Nat.xor_div_two_pow).trans (Nat.xor_mod_two_pow (n := 1))
  have hlow : x.bits.toNat / double.signBit % 2 < 2 := Nat.mod_lt _ (by decide)
  rw [datum, double.decode_eq_signed _ x.bits.toNat, hsign, datum]
  · congr 1
    generalize x.bits.toNat / double.signBit % 2 = sign at hlow
    match sign, hlow with
    | 0, _ => rfl
    | 1, _ => rfl
  · rw [hbits, Nat.xor_div_two_pow, Nat.xor_mod_two_pow]
    exact Nat.xor_zero _
  · rw [hbits, Nat.xor_mod_two_pow]
    exact Nat.xor_zero _

theorem datum_neg_infinite (hx : x.datum = .infinite negative) :
    x.neg.datum = .infinite !negative := by
  rw [datum_neg, double.sign_of_decode_infinite hx, hx]
  rfl

theorem datum_ofDatum_infinite (negative : Bool) :
    (ofDatum (.infinite negative)).datum = .infinite negative := by
  cases negative <;> decide

theorem isNaN_eq_false_iff : x.isNaN = false ↔ x.datum ≠ .nan := by
  rw [isNaN, beq_eq_false_iff_ne]

/-- An infinity less anything but the same infinity is the infinity. -/
theorem datum_sub_of_left (hx : x.datum = .infinite negative) (hnan : y.datum ≠ .nan)
    (hy : y.datum ≠ .infinite negative) : (x.sub y).datum = .infinite negative := by
  cases hdatum : y.datum with
  | nan => exact absurd hdatum hnan
  | infinite other =>
      have hother : (!other) = negative := by
        cases other <;> cases negative <;> simp_all
      have hneg := datum_neg_infinite hdatum
      simp only [sub, hdatum, add, hx, hneg, hother, if_true]
  | finite sign mantissa exponent =>
      have hneg := y.datum_neg
      rw [hdatum] at hneg
      simp only [sub, hdatum, add, hx, hneg, Datum.signed]

/-- Anything but an infinity less an infinity is the opposite infinity. -/
theorem datum_sub_of_right (hy : y.datum = .infinite negative) (hnan : x.datum ≠ .nan)
    (hx : ∀ other, x.datum ≠ .infinite other) : (x.sub y).datum = .infinite !negative := by
  have hneg := datum_neg_infinite hy
  cases hdatum : x.datum with
  | nan => exact absurd hdatum hnan
  | infinite other => exact absurd hdatum (hx other)
  | finite sign mantissa exponent => simp only [sub, hy, add, hdatum, hneg]

/-- Of two magnitudes one of which is infinite, the greater is. -/
theorem datum_max_abs (hx : x.datum ≠ .nan) (hy : y.datum ≠ .nan)
    (hinfinite : x.datum = .infinite negative ∨ y.datum = .infinite negative) :
    (x.abs.max y.abs).datum = .infinite false := by
  have hxabs := x.datum_abs
  have hyabs := y.datum_abs
  cases hxd : x.datum <;> cases hyd : y.datum <;>
    simp_all [Double.max, le, Datum.signed]

theorem scaledInt_zero (negative : Bool) (exponent base : Int) :
    scaledInt negative 0 exponent base = 0 := by
  simp [scaledInt]

theorem scaledInt_true_nonpos (mantissa : Nat) (exponent base : Int) :
    scaledInt true mantissa exponent base ≤ 0 := by
  have hmagnitude : (0 : Int) ≤ mantissa * 2 ^ (exponent - base).toNat :=
    Int.mul_nonneg (Int.natCast_nonneg mantissa) (Int.pow_nonneg (by decide))
  rw [scaledInt, if_pos rfl]
  exact Int.neg_nonpos_of_nonneg hmagnitude

/-- A number above zero. -/
def IsPositive (x : Double) : Prop :=
  x.datum = .infinite false ∨
    ∃ mantissa exponent, x.datum = .finite false mantissa exponent ∧ mantissa ≠ 0

/-- What is at least zero and does not equal it is above it. -/
theorem isPositive_of_le (hle : Double.zero.le x = true) (hne : x.eq Double.zero = false) :
    x.IsPositive := by
  have hzero : Double.zero.datum = .finite false 0 double.minExponent := by decide
  -- The only other way of not being equal is to be above it in the other order.
  have habove : x.le Double.zero = false := by
    rwa [eq, hle, Bool.and_true] at hne
  cases hdatum : x.datum with
  | nan => simp [le, hzero, hdatum] at hle
  | infinite sign =>
      cases sign with
      | false => exact Or.inl hdatum
      | true => simp [le, hzero, hdatum] at hle
  | finite sign mantissa exponent =>
      simp only [le, hzero, hdatum, scaledInt_zero, decide_eq_false_iff_not] at habove
      cases sign with
      | false =>
          refine Or.inr ⟨mantissa, exponent, hdatum, ?_⟩
          rintro rfl
          rw [scaledInt_zero] at habove
          exact habove (Int.le_refl 0)
      | true => exact absurd (scaledInt_true_nonpos _ _ _) habove

theorem datum_mul_infinite (hx : x.IsPositive) (hy : y.datum = .infinite false) :
    (x.mul y).datum = .infinite false := by
  rcases hx with hx | ⟨mantissa, exponent, hx, hmantissa⟩
  · simp [mul, hx, hy, datum_ofDatum_infinite]
  · simp [mul, hx, hy, hmantissa, datum_ofDatum_infinite]

end Double

end Counterpart
