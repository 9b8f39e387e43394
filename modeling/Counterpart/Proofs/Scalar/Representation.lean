/-
What a scalar type keeps of an integer, and what tells its values apart.  Of an integer it keeps
the number of the type that differs from it by a multiple of the power of the type; a value is
known by its number and by its bytes, and a list of values by the bytes of all of them.
-/
import Counterpart.Proofs.Argument.Elements
import Counterpart.Proofs.Scalar.Integer
import Counterpart.Proofs.Word.Widening

namespace Counterpart.ScalarValue

/-- The number with a sign is the pattern raised to the top of a word and brought back down. -/
theorem toInt_eq_shifts (v : ScalarValue) :
    v.toInt = if v.ty.isSigned then
        ((v.bits <<< (64 - 8 * v.ty.size)).sshiftRight (64 - 8 * v.ty.size)).toInt
      else (v.bits.toNat : Int) := by
  cases hsigned : v.ty.isSigned with
  | false => exact toInt_of_unsigned hsigned
  | true =>
      rw [if_pos rfl, toInt_of_signed hsigned,
        Word.toInt_sshiftRight_shiftLeft v.bits v.ty.size_pos v.ty.size_le,
        Word.signedNumber_eq_bmod v.bits v.ty.size_pos]

theorem ofDigits_toBytes {ty : ScalarType} {v : ScalarValue} (hv : v.IsOf ty) :
    Nat.ofDigits 256 (v.toBytes.map (·.toNat)) = v.bits.toNat := by
  have hlength : v.toBytes.length ≤ 8 := v.length_toBytes ▸ v.ty.size_le
  rw [← toNat_wordOfBytes hlength, wordOfBytes_toBytes hv]

/-- Of every integer a type keeps the one number of the type that differs from it by a multiple of
the power of the type.  A value without bits outside the type comes back from its number and from
its bytes: the number is the pattern, with a sign the pattern shifted up and down again, and the
bytes, as many as the type has, are the digits of the pattern, the low one first.  A list of such
values comes back from the bytes of all of them, cut into pieces of the size of the type. -/
theorem number_and_bytes_kept (ty : ScalarType) :
    (∀ i k : Int, (ofInt ty i).toInt = k ↔
      ty.Represents k ∧ (2 ^ (8 * ty.size) : Int) ∣ i - k) ∧
    (∀ v : ScalarValue, v.IsOf ty →
      ofInt ty v.toInt = v ∧
      (v.toInt = if ty.isSigned then
          ((v.bits <<< (64 - 8 * ty.size)).sshiftRight (64 - 8 * ty.size)).toInt
        else (v.bits.toNat : Int)) ∧
      v.toBytes.length = ty.size ∧
      Nat.ofDigits 256 (v.toBytes.map (·.toNat)) = v.bits.toNat ∧
      ofBytes? ty v.toBytes = some v) ∧
    ∀ values : List ScalarValue, (∀ v ∈ values, v.IsOf ty) →
      ArgValue.elements? ty (values.flatMap (·.toBytes)) = some values := by
  refine ⟨fun i k => toInt_ofInt_eq_iff, ?_, fun values => ArgValue.elements?_flatMap_toBytes⟩
  intro v hv
  obtain ⟨rfl, _⟩ := id hv
  exact ⟨ofInt_toInt (toNat_lt_of_isOf hv), toInt_eq_shifts v, length_toBytes v,
    ofDigits_toBytes hv, ofBytes?_toBytes hv⟩

namespace Short

/-- Two bytes with a sign. -/
def elem : ScalarType := .int .w2 true

/-- The least value of the type. -/
def least : ScalarValue := ofInt elem (-32768)

/-- Minus one, the greatest value and the least. -/
def values : List ScalarValue := [ofInt elem (-1), ofInt elem 32767, least]

theorem isOf_values : ∀ v ∈ values, v.IsOf elem := by
  simp only [values, least, List.forall_mem_cons]
  exact ⟨isOf_ofInt elem _, isOf_ofInt elem _, isOf_ofInt elem _, by simp⟩

end Short

open Short in
/-- A number beyond the type comes to one of it, and the least value and a list that ends with it
come back from what they are. -/
theorem number_and_bytes_kept_short :
    (ofInt elem 40000).toInt = -25536 ∧ least.IsOf elem ∧ ofInt elem least.toInt = least ∧
      least.toInt = -32768 ∧ least.toBytes = [0x00, 0x80] ∧
      ofBytes? elem [0x00, 0x80] = some least ∧ (∀ v ∈ values, v.IsOf elem) ∧
      values.flatMap (·.toBytes) = [0xFF, 0xFF, 0xFF, 0x7F, 0x00, 0x80] ∧
      ArgValue.elements? elem [0xFF, 0xFF, 0xFF, 0x7F, 0x00, 0x80] = some values := by
  obtain ⟨hnumber, hvalue, hlist⟩ := number_and_bytes_kept elem
  have hleast : least.IsOf elem := isOf_ofInt elem _
  have hbytes : least.toBytes = [0x00, 0x80] := by decide
  have hall : values.flatMap (·.toBytes) = [0xFF, 0xFF, 0xFF, 0x7F, 0x00, 0x80] := by decide
  obtain ⟨hback, hshifted, _, _, hread⟩ := hvalue least hleast
  have hlisted := hlist values isOf_values
  rw [hbytes] at hread
  rw [hall] at hlisted
  refine ⟨(hnumber 40000 (-25536)).2 ⟨?_, ?_⟩, hleast, hback, hshifted.trans ?_, hbytes, hread,
    isOf_values, hall, hlisted⟩
  · exact ⟨by decide, by decide⟩
  · decide
  · decide

end Counterpart.ScalarValue
