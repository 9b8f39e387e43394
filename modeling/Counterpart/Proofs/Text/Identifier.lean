/-
The characters of digits and identifiers, as ranges of code points.
-/
import Counterpart.Proofs.Text.Numeral
import Counterpart.Proofs.Text.Words
import Counterpart.Text.Identifier

namespace Counterpart.Text

theorem isDecimal_iff {c : Char} : isDecimal c = true ↔ 48 ≤ c.toNat ∧ c.toNat ≤ 57 := by
  simp only [isDecimal, Bool.and_eq_true, decide_eq_true_eq]
  rfl

theorem isIdentifierStart_iff {c : Char} : isIdentifierStart c = true ↔
    c.toNat = 95 ∨ 97 ≤ c.toNat ∧ c.toNat ≤ 122 ∨ 65 ≤ c.toNat ∧ c.toNat ≤ 90 := by
  have hunderscore : c = '_' ↔ c.toNat = 95 := ⟨fun h => h ▸ rfl, fun h => Char.toNat_inj.1 h⟩
  simp only [isIdentifierStart, Bool.or_eq_true, Bool.and_eq_true, decide_eq_true_eq, beq_iff_eq,
    hunderscore, or_assoc]
  rfl

theorem not_isDecimal_of_isIdentifierStart {c : Char} (hc : isIdentifierStart c = true) :
    isDecimal c = false := by
  rw [isIdentifierStart_iff] at hc
  rw [← Bool.not_eq_true, isDecimal_iff]
  omega

theorem isIdentifierPart_of_isDecimal {c : Char} (hc : isDecimal c = true) :
    isIdentifierPart c = true := by
  rw [isIdentifierPart, hc, Bool.or_true]

theorem isIdentifierPart_of_isIdentifierStart {c : Char} (hc : isIdentifierStart c = true) :
    isIdentifierPart c = true := by
  rw [isIdentifierPart, hc, Bool.true_or]

theorem not_isBlank_of_isIdentifierPart {c : Char} (hc : isIdentifierPart c = true) :
    isBlank c = false := by
  rw [isIdentifierPart, Bool.or_eq_true, isIdentifierStart_iff, isDecimal_iff] at hc
  simp only [isBlank, Bool.or_eq_false_iff, Bool.and_eq_false_iff, decide_eq_false_iff_not,
    beq_eq_false_iff_ne]
  omega

theorem isDecimal_digitChar : ∀ d < 10, isDecimal d.digitChar = true := by
  decide

theorem isDecimal_of_mem_decimal {n : Nat} {c : Char} (hc : c ∈ decimal n) :
    isDecimal c = true := by
  obtain ⟨d, hd, rfl⟩ := exists_digit_of_mem_toDigits isBase_ten hc
  exact isDecimal_digitChar d hd

theorem mem_integer {i : Int} {c : Char} (hc : c ∈ integer i) : c = '-' ∨ isDecimal c = true := by
  cases i with
  | ofNat n => exact .inr (isDecimal_of_mem_decimal hc)
  | negSucc n => exact (List.mem_cons.1 hc).imp_right isDecimal_of_mem_decimal

theorem isWord_decimal (n : Nat) : IsWord (decimal n) :=
  fun _ hc => not_isBlank_of_isIdentifierPart
    (isIdentifierPart_of_isDecimal (isDecimal_of_mem_decimal hc))

theorem isIdentifierPart_of_mem {cs : List Char} (hname : isIdentifier cs = true) {c : Char}
    (hc : c ∈ cs) : isIdentifierPart c = true := by
  cases cs with
  | nil => cases hname
  | cons first cs =>
      rw [isIdentifier, Bool.and_eq_true, List.all_eq_true] at hname
      rcases List.mem_cons.1 hc with rfl | hc
      · exact isIdentifierPart_of_isIdentifierStart hname.1
      · exact hname.2 c hc

theorem isWord_of_isIdentifier {cs : List Char} (hname : isIdentifier cs = true) : IsWord cs :=
  fun _ hc => not_isBlank_of_isIdentifierPart (isIdentifierPart_of_mem hname hc)

end Counterpart.Text
