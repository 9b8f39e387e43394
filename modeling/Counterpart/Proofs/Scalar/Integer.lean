/-
The numbers of scalar types.  A number brought into a type is its remainder by the power of the
type, counted from zero without a sign and around zero with one: the one number between the ends
of the type that differs from it by a multiple of the power.  The patterns of floating-point
types are counted from zero.
-/
import Counterpart.Generate.Boundary
import Counterpart.Proofs.Scalar.Value

namespace Counterpart

theorem Width.bits_le (w : Width) : w.bits ≤ 64 := by
  cases w <;> decide

theorem Width.bits_pos (w : Width) : 0 < w.bits := by
  cases w <;> decide

namespace ScalarType

/-- Whether the numbers of the type are counted around zero. -/
def isSigned : ScalarType → Bool
  | .int _ signed => signed
  | .f32 | .f64 => false

/-- Whether a number is one of the type. -/
def Represents (ty : ScalarType) (k : Int) : Prop :=
  if ty.isSigned then -(2 ^ (8 * ty.size - 1)) ≤ k ∧ k < 2 ^ (8 * ty.size - 1)
  else 0 ≤ k ∧ k < 2 ^ (8 * ty.size)

end ScalarType

namespace ScalarValue

section Number

variable {ty : ScalarType} {v : ScalarValue}

theorem toNat_bits_ofInt (ty : ScalarType) (i : Int) :
    ((ofInt ty i).bits.toNat : Int) = i % (2 ^ (8 * ty.size) : Nat) := by
  have hbits : 8 * ty.size ≤ 64 := Nat.mul_le_mul_left 8 ty.size_le
  have hdvd : ((2 ^ (8 * ty.size) : Nat) : Int) ∣ (2 ^ 64 : Nat) :=
    Int.natCast_dvd_natCast.2 (Nat.pow_dvd_pow 2 hbits)
  have hnonneg : 0 ≤ i % (2 ^ 64 : Nat) := Int.emod_nonneg i (by decide)
  rw [ofInt, toNat_bits_ofBits, BitVec.toNat_ofInt, Int.natCast_emod, Int.toNat_of_nonneg hnonneg]
  exact Int.emod_emod_of_dvd i hdvd

theorem toInt_of_unsigned (hsigned : v.ty.isSigned = false) : v.toInt = v.bits.toNat := by
  obtain ⟨ty, bits⟩ := v
  cases ty with
  | int width signed =>
      obtain rfl : signed = false := hsigned
      rfl
  | f32 => rfl
  | f64 => rfl

theorem toInt_of_signed (hsigned : v.ty.isSigned = true) :
    v.toInt = (v.bits.toNat : Int).bmod (2 ^ (8 * v.ty.size)) := by
  obtain ⟨ty, bits⟩ := v
  cases ty with
  | int width signed =>
      obtain rfl : signed = true := hsigned
      change (bits.setWidth width.bits).toInt = _
      rw [BitVec.toInt_eq_toNat_bmod, BitVec.toNat_setWidth, Int.natCast_emod, Int.emod_bmod]
      rfl
  | f32 => cases hsigned
  | f64 => cases hsigned

theorem toInt_ofInt_of_unsigned (hsigned : ty.isSigned = false) (i : Int) :
    (ofInt ty i).toInt = i % (2 ^ (8 * ty.size) : Nat) := by
  rw [← toNat_bits_ofInt]
  exact toInt_of_unsigned hsigned

theorem toInt_ofInt_of_signed (hsigned : ty.isSigned = true) (i : Int) :
    (ofInt ty i).toInt = i.bmod (2 ^ (8 * ty.size)) := by
  rw [← Int.emod_bmod, ← toNat_bits_ofInt]
  exact toInt_of_signed hsigned

theorem toInt_ofInt_unsigned (w : Width) (i : Int) :
    (ofInt (.int w false) i).toInt = i % (2 ^ w.bits : Nat) :=
  toInt_ofInt_of_unsigned rfl i

theorem toInt_ofInt_signed (w : Width) (i : Int) :
    (ofInt (.int w true) i).toInt = i.bmod (2 ^ w.bits) :=
  toInt_ofInt_of_signed rfl i

/-- The number of an integer in a type is the one of the type that differs from it by a multiple
of the power of the type. -/
theorem toInt_ofInt_eq_iff {i k : Int} :
    (ofInt ty i).toInt = k ↔ ty.Represents k ∧ (2 ^ (8 * ty.size) : Int) ∣ i - k := by
  have hpos : 0 < 2 ^ (8 * ty.size) := Nat.two_pow_pos _
  have hpower : ((2 ^ (8 * ty.size) : Nat) : Int) = 2 ^ (8 * ty.size) := Int.natCast_pow _ _
  have hdvd : (2 ^ (8 * ty.size) : Int) ∣ i - k ↔ (2 ^ (8 * ty.size) : Int) ∣ k - i := by
    rw [← Int.dvd_neg, Int.neg_sub]
  unfold ScalarType.Represents
  cases hsigned : ty.isSigned with
  | false =>
      rw [toInt_ofInt_of_unsigned hsigned, Int.emod_eq_iff (by omega), Int.natAbs_natCast, hpower,
        hdvd, ← and_assoc]
      rfl
  | true =>
      have hbits : 0 < 8 * ty.size := Nat.mul_pos (by decide) ty.size_pos
      have hhalf : ((2 ^ (8 * ty.size - 1) : Nat) : Int) = 2 ^ (8 * ty.size - 1) :=
        Int.natCast_pow _ _
      have htwice := Nat.two_pow_pred_mul_two hbits
      rw [toInt_ofInt_of_signed hsigned, Int.bmod_eq_iff hpos, hpower, hdvd, ← and_assoc]
      refine and_congr_left fun _ => ?_
      simp only [if_true]
      omega

/-- A value without bits outside its type is the one its number comes to. -/
theorem ofInt_toInt (hbits : v.bits.toNat < 2 ^ (8 * v.ty.size)) : ofInt v.ty v.toInt = v := by
  have hmod : (v.bits.toNat : Int) % (2 ^ (8 * v.ty.size) : Nat) = v.bits.toNat := by
    rw [← Int.natCast_emod, Nat.mod_eq_of_lt hbits]
  have hnumber : v.toInt % (2 ^ (8 * v.ty.size) : Nat) = v.bits.toNat := by
    cases hsigned : v.ty.isSigned with
    | false => rw [toInt_of_unsigned hsigned, hmod]
    | true => rw [toInt_of_signed hsigned, Int.bmod_emod, hmod]
  have hsame : (ofInt v.ty v.toInt).bits = v.bits := by
    apply BitVec.eq_of_toNat_eq
    apply Int.ofNat_inj.1
    rw [toNat_bits_ofInt, hnumber]
  exact congrArg (ScalarValue.mk v.ty) hsame

end Number

end ScalarValue

/-- Whether a number is one of an integer type. -/
def Width.Represents (width : Width) (signed : Bool) (i : Int) : Prop :=
  (BoundaryRow.ends width signed).1 ≤ i ∧ i ≤ (BoundaryRow.ends width signed).2

theorem ScalarType.represents_int {width : Width} {signed : Bool} {i : Int} :
    (ScalarType.int width signed).Represents i ↔ width.Represents signed i := by
  cases signed with
  | false => exact and_congr_right fun _ => Int.le_sub_one_iff.symm
  | true => exact and_congr_right fun _ => Int.le_sub_one_iff.symm

/-- What an integer type keeps of a number: the number of the type that differs from it by a
multiple of the power of the type. -/
structure Truncation (width : Width) (signed : Bool) (k x : Int) : Prop where
  represents : width.Represents signed x
  congruent : (2 ^ width.bits : Int) ∣ k - x

theorem truncation_iff {width : Width} {signed : Bool} {k x : Int} :
    Truncation width signed k x ↔ (ScalarValue.ofInt (.int width signed) k).toInt = x := by
  rw [ScalarValue.toInt_ofInt_eq_iff, ScalarType.represents_int]
  exact ⟨fun h => ⟨h.1, h.2⟩, fun h => ⟨h.1, h.2⟩⟩

theorem truncation_ofInt (width : Width) (signed : Bool) (i : Int) :
    Truncation width signed i (ScalarValue.ofInt (.int width signed) i).toInt :=
  truncation_iff.2 rfl

/-- A number of the type is kept as it is. -/
theorem Truncation.eq_of_represents {width : Width} {signed : Bool} {k x : Int}
    (htruncation : Truncation width signed k x) (hk : width.Represents signed k) : x = k := by
  have hself : Truncation width signed k k := ⟨hk, by rw [Int.sub_self]; exact Int.dvd_zero _⟩
  exact (truncation_iff.1 htruncation).symm.trans (truncation_iff.1 hself)

end Counterpart
