/-
The bits of a type.  A mask of whole bytes is a power of two less one, so masking is the
remainder, and a pattern has no bits outside its type when it is below that power.
-/
import Counterpart.Scalar.Value

namespace Counterpart

theorem Word.toNat_mask :
    ∀ width ≤ 8, (Word.mask width).toNat = 2 ^ (8 * width) - 1 := by
  decide

theorem Word.toNat_and_mask {width : Nat} (hwidth : width ≤ 8) (word : Word) :
    (word &&& Word.mask width).toNat = word.toNat % 2 ^ (8 * width) := by
  rw [BitVec.toNat_and, Word.toNat_mask width hwidth, Nat.and_two_pow_sub_one_eq_mod]

theorem ScalarType.size_le (ty : ScalarType) : ty.size ≤ 8 := by
  cases ty with
  | int width signed => cases width <;> simp [size, Width.bytes]
  | f32 => decide
  | f64 => decide

theorem ScalarType.size_pos (ty : ScalarType) : 0 < ty.size := by
  cases ty with
  | int width signed => cases width <;> simp [size, Width.bytes]
  | f32 => decide
  | f64 => decide

namespace ScalarValue

theorem toNat_bits_ofBits (ty : ScalarType) (bits : Word) :
    (ofBits ty bits).bits.toNat = bits.toNat % 2 ^ (8 * ty.size) :=
  Word.toNat_and_mask ty.size_le bits

theorem toNat_bits_ofBits_lt (ty : ScalarType) (bits : Word) :
    (ofBits ty bits).bits.toNat < 2 ^ (8 * ty.size) := by
  rw [toNat_bits_ofBits]
  exact Nat.mod_lt _ (Nat.two_pow_pos _)

/-- A pattern below the power of its type is kept whole. -/
theorem ofBits_of_lt {v : ScalarValue} (hbits : v.bits.toNat < 2 ^ (8 * v.ty.size)) :
    ofBits v.ty v.bits = v := by
  have hsame : (ofBits v.ty v.bits).bits = v.bits := by
    apply BitVec.eq_of_toNat_eq
    rw [toNat_bits_ofBits, Nat.mod_eq_of_lt hbits]
  obtain ⟨ty, bits⟩ := v
  simp only [ofBits, ScalarValue.mk.injEq, true_and] at hsame ⊢
  exact hsame

end ScalarValue

end Counterpart
