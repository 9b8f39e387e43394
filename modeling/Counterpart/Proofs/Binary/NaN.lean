/-
Which bit patterns are no number: those with every bit of the exponent field set and a
fraction other than zero.  Widening a pattern of thirty-two bits keeps this, as rounding
a datum never goes beyond infinity.
-/
import Counterpart.Scalar.Value

namespace Counterpart

namespace Binary.Format

/-- The fields of a pattern that is no number. -/
def IsNaN (f : Format) (bits : Nat) : Prop :=
  bits / 2 ^ f.fractionBits % 2 ^ f.exponentBits = f.topField ∧ bits % 2 ^ f.fractionBits ≠ 0

theorem decode_eq_nan_iff (f : Format) (bits : Nat) :
    f.decode bits = .nan ↔ f.IsNaN bits := by
  simp only [decode, IsNaN]
  split
  · next hfield =>
      split
      · next hfraction => simp [hfraction]
      · next hfraction => simp [hfield, hfraction]
  · next hfield =>
      split
      · simp [hfield]
      · simp [hfield]

theorem nearest_le_infinity (f : Format) (num den : Nat) : f.nearest num den ≤ f.infinity := by
  unfold nearest
  split
  · exact Nat.zero_le _
  · exact Nat.min_le_right _ _

theorem nearestScaled_le_infinity (f : Format) (mantissa : Nat) (exponent : Int) :
    f.nearestScaled mantissa exponent ≤ f.infinity := by
  cases exponent with
  | ofNat n => exact f.nearest_le_infinity _ _
  | negSucc n => exact f.nearest_le_infinity _ _

end Binary.Format

namespace Double

open Binary

theorem isNaN_iff (x : Double) : x.isNaN = true ↔ double.IsNaN x.bits.toNat := by
  rw [isNaN, beq_iff_eq]
  exact double.decode_eq_nan_iff x.bits.toNat

/-- With or without a sign, no magnitude up to infinity is a pattern without a number. -/
theorem not_isNaN_signed (negative : Bool) {magnitude : Nat}
    (hmagnitude : magnitude ≤ double.infinity) :
    ¬ double.IsNaN (double.signed negative magnitude % 2 ^ 64) := by
  simp only [Format.IsNaN, Format.signed, Format.infinity, Format.topField, Format.signBit,
    double] at *
  split
  · omega
  · omega

/-- Rounding a datum gives a number unless there was none. -/
theorem isNaN_ofDatum (d : Datum) : (ofDatum d).isNaN = true ↔ d = .nan := by
  rw [isNaN_iff, ofDatum, BitVec.toNat_ofNat]
  cases d with
  | nan =>
      have hquiet : double.IsNaN (double.quietNaN % 2 ^ 64) := by
        simp [Format.IsNaN, Format.quietNaN, Format.infinity, Format.topField, double]
      exact ⟨fun _ => rfl, fun _ => hquiet⟩
  | infinite negative =>
      have hnumber := not_isNaN_signed negative (Nat.le_refl double.infinity)
      exact ⟨fun hnan => absurd hnan hnumber, nofun⟩
  | finite negative mantissa exponent =>
      have hle := double.nearestScaled_le_infinity mantissa exponent
      have hnumber := not_isNaN_signed negative hle
      exact ⟨fun hnan => absurd hnan hnumber, nofun⟩

end Double

namespace ScalarValue

/-- A scalar whose pattern is no number in the format of its type. -/
def IsNaN (v : ScalarValue) : Prop :=
  v.ty.format.IsNaN v.bits.toNat

theorem isNaN_toDouble (v : ScalarValue) : v.toDouble.isNaN = true ↔ v.IsNaN := by
  obtain ⟨ty, bits⟩ := v
  cases ty with
  | f32 =>
      rw [toDouble, Double.ofSingle, Double.isNaN_ofDatum, Binary.Format.decode_eq_nan_iff]
      simp only [IsNaN, Binary.Format.IsNaN, ScalarType.format, Binary.single,
        Binary.Format.topField, BitVec.toNat_setWidth]
      omega
  | f64 => exact Double.isNaN_iff ⟨bits⟩
  | int width signed => exact Double.isNaN_iff ⟨bits⟩

end ScalarValue

end Counterpart
