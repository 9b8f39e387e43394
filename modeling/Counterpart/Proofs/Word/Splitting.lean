/-
Words cut apart and put together.  Concatenation and extraction succeed exactly where their widths
fit, they undo each other, a concatenation of three parts is the same whichever two come first, and
an extraction from an extraction is an extraction from the whole.
-/
import Counterpart.Proofs.Except
import Counterpart.Proofs.Scalar.Value
import Counterpart.Proofs.Word

namespace Counterpart.Word

/-- A number of bytes from one to a whole word. -/
def IsWidth (width : Nat) : Prop :=
  1 ≤ width ∧ width ≤ 8

theorem checkWidth_eq_ok_iff {width : Nat} : checkWidth width = .ok () ↔ IsWidth width := by
  by_cases h : 1 ≤ width ∧ width ≤ 8
  · exact iff_of_true (if_pos h) h
  · refine iff_of_false ?_ h
    rw [checkWidth, if_neg h]
    exact nofun

section

variable {value high low r : Word} {source offset result highWidth lowWidth : Nat}

/-- An answer that is there exactly where its widths fit is known by its number. -/
theorem eq_ok_iff_of_number {β : Type} {answer : Except WidthError Word} {fits : Prop}
    {number : Word → β} {n : β} (hinj : Function.Injective number)
    (hfits : ∀ r, answer = .ok r → fits)
    (hanswer : fits → ∃ r, answer = .ok r ∧ number r = n) :
    answer = .ok r ↔ fits ∧ number r = n := by
  constructor
  · intro hr
    obtain ⟨r', hr', hnumber⟩ := hanswer (hfits r hr)
    cases hr'.symm.trans hr
    exact ⟨hfits r hr, hnumber⟩
  · rintro ⟨hwidths, hr⟩
    obtain ⟨r', hr', hnumber⟩ := hanswer hwidths
    rw [hr', hinj (hnumber.trans hr.symm)]

theorem toNat_injective : Function.Injective (BitVec.toNat : Word → Nat) :=
  fun _ _ => BitVec.eq_of_toNat_eq

/-- A concatenation is known by its number. -/
theorem concat_eq_ok_iff : concat high highWidth low lowWidth = .ok r ↔
    (IsWidth highWidth ∧ IsWidth lowWidth ∧ highWidth + lowWidth ≤ 8) ∧
      r.toNat = high.toNat % 2 ^ (8 * highWidth) * 2 ^ (8 * lowWidth) +
        low.toNat % 2 ^ (8 * lowWidth) := by
  refine eq_ok_iff_of_number toNat_injective ?_ ?_
  · intro r hconcat
    obtain ⟨_, hhigh, hrest⟩ := bind_eq_ok_iff.1 hconcat
    obtain ⟨_, hlow, hfits⟩ := bind_eq_ok_iff.1 hrest
    have htotal := not_of_guard_eq_ok hfits
    exact ⟨checkWidth_eq_ok_iff.1 hhigh, checkWidth_eq_ok_iff.1 hlow, Nat.le_of_not_lt htotal⟩
  · rintro ⟨hhigh, hlow, htotal⟩
    exact exists_concat high low hhigh.1 hlow.1 htotal

/-- An extraction is known by its number. -/
theorem extract_eq_ok_iff : extract value source offset result = .ok r ↔
    (IsWidth source ∧ IsWidth result ∧ offset + result ≤ source) ∧
      r.toNat = value.toNat / 2 ^ (8 * offset) % 2 ^ (8 * result) := by
  refine eq_ok_iff_of_number toNat_injective ?_ ?_
  · intro r hextract
    obtain ⟨_, hsource, hrest⟩ := bind_eq_ok_iff.1 hextract
    obtain ⟨_, hresult, hfits⟩ := bind_eq_ok_iff.1 hrest
    have hinside := not_of_guard_eq_ok hfits
    exact ⟨checkWidth_eq_ok_iff.1 hsource, checkWidth_eq_ok_iff.1 hresult, Nat.le_of_not_lt hinside⟩
  · rintro ⟨hsource, hresult, hinside⟩
    exact exists_extract value hresult.1 hsource.2 hinside

theorem toNat_shift_or_mask (htotal : highWidth + lowWidth ≤ 8) :
    ((high &&& mask highWidth) <<< (8 * lowWidth) ||| low &&& mask lowWidth).toNat =
      high.toNat % 2 ^ (8 * highWidth) * 2 ^ (8 * lowWidth) +
        low.toNat % 2 ^ (8 * lowWidth) := by
  have hlow : low.toNat % 2 ^ (8 * lowWidth) < 2 ^ (8 * lowWidth) :=
    Nat.mod_lt _ (Nat.two_pow_pos _)
  have hword : high.toNat % 2 ^ (8 * highWidth) * 2 ^ (8 * lowWidth) < 2 ^ 64 := by
    calc high.toNat % 2 ^ (8 * highWidth) * 2 ^ (8 * lowWidth)
        < 2 ^ (8 * highWidth) * 2 ^ (8 * lowWidth) :=
          Nat.mul_lt_mul_of_pos_right (Nat.mod_lt _ (Nat.two_pow_pos _)) (Nat.two_pow_pos _)
      _ = 2 ^ (8 * highWidth + 8 * lowWidth) := (Nat.pow_add _ _ _).symm
      _ ≤ 2 ^ 64 := Nat.pow_le_pow_right (by decide) (by omega)
  rw [BitVec.toNat_or, BitVec.toNat_shiftLeft, toNat_and_mask (by omega),
    toNat_and_mask (by omega), Nat.shiftLeft_eq, Nat.mod_eq_of_lt hword, ← Nat.shiftLeft_eq,
    Nat.shiftLeft_add_eq_or_of_lt hlow]

theorem toNat_shift_mask (hsource : source ≤ 8) (hinside : offset + result ≤ source) :
    ((value &&& mask source) >>> (8 * offset) &&& mask result).toNat =
      value.toNat / 2 ^ (8 * offset) % 2 ^ (8 * result) := by
  rw [toNat_and_mask (by omega), BitVec.toNat_ushiftRight, toNat_and_mask hsource,
    Nat.shiftRight_eq_div_pow, mod_div_mod _ (by omega)]

/-- A concatenation in masks and shifts. -/
theorem concat_eq_ok_iff_masks : concat high highWidth low lowWidth = .ok r ↔
    (IsWidth highWidth ∧ IsWidth lowWidth ∧ highWidth + lowWidth ≤ 8) ∧
      r = ((high &&& mask highWidth) <<< (8 * lowWidth) ||| low &&& mask lowWidth) := by
  rw [concat_eq_ok_iff]
  refine and_congr_right fun ⟨_, _, htotal⟩ => ?_
  rw [← toNat_shift_or_mask htotal, BitVec.toNat_inj]

/-- An extraction in masks and shifts. -/
theorem extract_eq_ok_iff_masks : extract value source offset result = .ok r ↔
    (IsWidth source ∧ IsWidth result ∧ offset + result ≤ source) ∧
      r = (value &&& mask source) >>> (8 * offset) &&& mask result := by
  rw [extract_eq_ok_iff]
  refine and_congr_right fun ⟨hsource, _, hinside⟩ => ?_
  rw [← toNat_shift_mask hsource.2 hinside, BitVec.toNat_inj]

/-- The low bytes of a concatenation are those of its lower part. -/
theorem exists_low_of_concat (hconcat : concat high highWidth low lowWidth = .ok r) :
    ∃ part, extract r (highWidth + lowWidth) 0 lowWidth = .ok part ∧
      part.toNat = low.toNat % 2 ^ (8 * lowWidth) := by
  obtain ⟨⟨hhigh, hlow, htotal⟩, hr⟩ := concat_eq_ok_iff.1 hconcat
  obtain ⟨part, hpart, hnumber⟩ :=
    @exists_extract r (highWidth + lowWidth) 0 lowWidth hlow.1 htotal (by omega)
  refine ⟨part, hpart, ?_⟩
  rw [hnumber, hr, Nat.mul_zero, Nat.pow_zero, Nat.div_one, Nat.mul_comm, Nat.mul_add_mod,
    Nat.mod_mod]

/-- The high bytes of a concatenation are those of its upper part. -/
theorem exists_high_of_concat (hconcat : concat high highWidth low lowWidth = .ok r) :
    ∃ part, extract r (highWidth + lowWidth) lowWidth highWidth = .ok part ∧
      part.toNat = high.toNat % 2 ^ (8 * highWidth) := by
  obtain ⟨⟨hhigh, hlow, htotal⟩, hr⟩ := concat_eq_ok_iff.1 hconcat
  obtain ⟨part, hpart, hnumber⟩ :=
    @exists_extract r (highWidth + lowWidth) lowWidth highWidth hhigh.1 htotal (by omega)
  have hbelow : low.toNat % 2 ^ (8 * lowWidth) / 2 ^ (8 * lowWidth) = 0 :=
    Nat.div_eq_of_lt (Nat.mod_lt _ (Nat.two_pow_pos _))
  refine ⟨part, hpart, ?_⟩
  rw [hnumber, hr, Nat.mul_comm, Nat.mul_add_div (Nat.two_pow_pos _), hbelow, Nat.add_zero,
    Nat.mod_mod]

/-- A word that is cut in two is put together again. -/
theorem exists_concat_of_parts (value : Word) {width k : Nat} (hpos : 1 ≤ k) (hlt : k < width)
    (hle : width ≤ 8) :
    ∃ upper lower whole, extract value width k (width - k) = .ok upper ∧
      extract value width 0 k = .ok lower ∧ concat upper (width - k) lower k = .ok whole ∧
      whole.toNat = value.toNat % 2 ^ (8 * width) := by
  obtain ⟨upper, hupper, hupperNumber⟩ :=
    @exists_extract value width k (width - k) (by omega) hle (by omega)
  obtain ⟨lower, hlower, hlowerNumber⟩ :=
    @exists_extract value width 0 k hpos hle (by omega)
  obtain ⟨whole, hwhole, hwholeNumber⟩ :=
    @exists_concat upper lower (width - k) k (by omega) hpos (by omega)
  refine ⟨upper, lower, whole, hupper, hlower, hwhole, ?_⟩
  have hwidth : 2 ^ (8 * width) = 2 ^ (8 * k) * 2 ^ (8 * (width - k)) := by
    rw [← Nat.pow_add]
    congr 1
    omega
  rw [hwholeNumber, hupperNumber, hlowerNumber, Nat.mul_zero, Nat.pow_zero, Nat.div_one,
    Nat.mod_mod, Nat.mod_mod, hwidth, Nat.mod_mul, Nat.mul_comm, Nat.add_comm]

/-- Bytes of extracted bytes are bytes of the whole. -/
theorem extract_of_extract {part : Word} {offset' result' : Nat}
    (hpart : extract value source offset result = .ok part)
    (hinner : extract part result offset' result' = .ok r) :
    extract value source (offset + offset') result' = .ok r := by
  obtain ⟨⟨hsource, hresult, hinside⟩, hpartNumber⟩ := extract_eq_ok_iff.1 hpart
  obtain ⟨⟨_, hresult', hinside'⟩, hnumber⟩ := extract_eq_ok_iff.1 hinner
  refine extract_eq_ok_iff.2 ⟨⟨hsource, hresult', by omega⟩, ?_⟩
  rw [hnumber, hpartNumber, mod_div_mod _ (by omega), Nat.div_div_eq_div_mul, ← Nat.pow_add,
    ← Nat.mul_add]

end

section

variable {high middle low : Word} {highWidth middleWidth lowWidth : Nat}

/-- Three parts put together from the upper end. -/
def concatFromHigh (high : Word) (highWidth : Nat) (middle : Word) (middleWidth : Nat)
    (low : Word) (lowWidth : Nat) : Except WidthError Word := do
  let upper ← concat high highWidth middle middleWidth
  concat upper (highWidth + middleWidth) low lowWidth

/-- Three parts put together from the lower end. -/
def concatFromLow (high : Word) (highWidth : Nat) (middle : Word) (middleWidth : Nat)
    (low : Word) (lowWidth : Nat) : Except WidthError Word := do
  let lower ← concat middle middleWidth low lowWidth
  concat high highWidth lower (middleWidth + lowWidth)

/-- A part without bytes is refused. -/
theorem concat_of_zero (htotal : highWidth + lowWidth ≤ 8) (hzero : highWidth = 0 ∨ lowWidth = 0) :
    concat high highWidth low lowWidth = .error (.invalidWidth 0) := by
  by_cases hhigh : highWidth = 0
  · rw [hhigh]
    rfl
  · rw [hzero.resolve_left hhigh, concat, checkWidth_of_le (by omega) (by omega)]
    rfl

theorem concatFromHigh_of_zero (htotal : highWidth + middleWidth + lowWidth ≤ 8)
    (hzero : highWidth = 0 ∨ middleWidth = 0 ∨ lowWidth = 0) :
    concatFromHigh high highWidth middle middleWidth low lowWidth = .error (.invalidWidth 0) := by
  by_cases hupper : highWidth = 0 ∨ middleWidth = 0
  · rw [concatFromHigh, concat_of_zero (by omega) hupper]
    rfl
  · obtain ⟨upper, hconcat, _⟩ :=
      @exists_concat high middle highWidth middleWidth (by omega) (by omega) (by omega)
    rw [concatFromHigh, hconcat]
    exact concat_of_zero htotal (by omega)

theorem concatFromLow_of_zero (htotal : highWidth + middleWidth + lowWidth ≤ 8)
    (hzero : highWidth = 0 ∨ middleWidth = 0 ∨ lowWidth = 0) :
    concatFromLow high highWidth middle middleWidth low lowWidth = .error (.invalidWidth 0) := by
  by_cases hlower : middleWidth = 0 ∨ lowWidth = 0
  · rw [concatFromLow, concat_of_zero (by omega) hlower]
    rfl
  · obtain ⟨lower, hconcat, _⟩ :=
      @exists_concat middle low middleWidth lowWidth (by omega) (by omega) (by omega)
    rw [concatFromLow, hconcat]
    exact concat_of_zero (by omega) (by omega)

/-- Three parts come to the same word from either end. -/
theorem exists_concat_three (high middle low : Word) (hhigh : 1 ≤ highWidth)
    (hmiddle : 1 ≤ middleWidth) (hlow : 1 ≤ lowWidth)
    (htotal : highWidth + middleWidth + lowWidth ≤ 8) :
    ∃ whole, concatFromHigh high highWidth middle middleWidth low lowWidth = .ok whole ∧
      concatFromLow high highWidth middle middleWidth low lowWidth = .ok whole := by
  obtain ⟨upper, hupper, hupperNumber⟩ := exists_concat high middle hhigh hmiddle (by omega)
  obtain ⟨lower, hlower, hlowerNumber⟩ := exists_concat middle low hmiddle hlow (by omega)
  obtain ⟨whole, hwhole, hwholeNumber⟩ :=
    @exists_concat upper low (highWidth + middleWidth) lowWidth (by omega) hlow htotal
  refine ⟨whole, bind_eq_ok_iff.2 ⟨upper, hupper, hwhole⟩, bind_eq_ok_iff.2 ⟨lower, hlower, ?_⟩⟩
  refine concat_eq_ok_iff.2 ⟨⟨⟨hhigh, by omega⟩, ⟨by omega, by omega⟩, by omega⟩, ?_⟩
  have hupperLt : upper.toNat < 2 ^ (8 * (highWidth + middleWidth)) := by
    rw [hupperNumber, Nat.mul_add]
    exact concat_lt (Nat.mod_lt _ (Nat.two_pow_pos _)) (Nat.mod_lt _ (Nat.two_pow_pos _))
  have hlowerLt : lower.toNat < 2 ^ (8 * (middleWidth + lowWidth)) := by
    rw [hlowerNumber, Nat.mul_add]
    exact concat_lt (Nat.mod_lt _ (Nat.two_pow_pos _)) (Nat.mod_lt _ (Nat.two_pow_pos _))
  rw [hwholeNumber, Nat.mod_eq_of_lt hupperLt, Nat.mod_eq_of_lt hlowerLt, hupperNumber,
    hlowerNumber, Nat.mul_add 8, Nat.pow_add, Nat.add_mul, Nat.mul_assoc, Nat.add_assoc]

/-- Which two of three parts come first makes no difference, also where a part is refused. -/
theorem concatFromHigh_eq_concatFromLow (htotal : highWidth + middleWidth + lowWidth ≤ 8) :
    concatFromHigh high highWidth middle middleWidth low lowWidth =
      concatFromLow high highWidth middle middleWidth low lowWidth := by
  by_cases hzero : highWidth = 0 ∨ middleWidth = 0 ∨ lowWidth = 0
  · rw [concatFromHigh_of_zero htotal hzero, concatFromLow_of_zero htotal hzero]
  · obtain ⟨whole, hhigh, hlow⟩ :=
      @exists_concat_three highWidth middleWidth lowWidth high middle low (by omega) (by omega)
        (by omega) htotal
    rw [hhigh, hlow]

end

/-- Words are cut and put together without loss.  Both operations have a result exactly where their
widths fit, the one that masks and shifts come to; a concatenation gives back both of its parts, a
word cut in two gives back the word, three parts come to the same from either end, and an extraction
from an extraction is one from the whole. -/
theorem concat_extract_invert_compose :
    (∀ high highWidth low lowWidth r, concat high highWidth low lowWidth = .ok r ↔
      (IsWidth highWidth ∧ IsWidth lowWidth ∧ highWidth + lowWidth ≤ 8) ∧
        r = ((high &&& mask highWidth) <<< (8 * lowWidth) ||| low &&& mask lowWidth)) ∧
    (∀ value source offset result r, extract value source offset result = .ok r ↔
      (IsWidth source ∧ IsWidth result ∧ offset + result ≤ source) ∧
        r = (value &&& mask source) >>> (8 * offset) &&& mask result) ∧
    (∀ high highWidth low lowWidth r, concat high highWidth low lowWidth = .ok r →
      (∃ part, extract r (highWidth + lowWidth) 0 lowWidth = .ok part ∧
        part.toNat = low.toNat % 2 ^ (8 * lowWidth)) ∧
      ∃ part, extract r (highWidth + lowWidth) lowWidth highWidth = .ok part ∧
        part.toNat = high.toNat % 2 ^ (8 * highWidth)) ∧
    (∀ value width k, 1 ≤ k → k < width → width ≤ 8 →
      ∃ upper lower whole, extract value width k (width - k) = .ok upper ∧
        extract value width 0 k = .ok lower ∧ concat upper (width - k) lower k = .ok whole ∧
        whole.toNat = value.toNat % 2 ^ (8 * width)) ∧
    (∀ high highWidth middle middleWidth low lowWidth, highWidth + middleWidth + lowWidth ≤ 8 →
      concatFromHigh high highWidth middle middleWidth low lowWidth =
        concatFromLow high highWidth middle middleWidth low lowWidth ∧
      (1 ≤ highWidth → 1 ≤ middleWidth → 1 ≤ lowWidth →
        ∃ r, concatFromHigh high highWidth middle middleWidth low lowWidth = .ok r)) ∧
    ∀ value source offset result part offset' result' r,
      extract value source offset result = .ok part →
      extract part result offset' result' = .ok r →
      extract value source (offset + offset') result' = .ok r := by
  refine ⟨fun _ _ _ _ _ => concat_eq_ok_iff_masks, fun _ _ _ _ _ => extract_eq_ok_iff_masks,
    ?_, ?_, ?_, ?_⟩
  · intro high highWidth low lowWidth r hconcat
    exact ⟨exists_low_of_concat hconcat, exists_high_of_concat hconcat⟩
  · intro value width k hpos hlt hle
    exact exists_concat_of_parts value hpos hlt hle
  · intro high highWidth middle middleWidth low lowWidth htotal
    refine ⟨concatFromHigh_eq_concatFromLow htotal, fun hhigh hmiddle hlow => ?_⟩
    obtain ⟨whole, hwhole, _⟩ := exists_concat_three high middle low hhigh hmiddle hlow htotal
    exact ⟨whole, hwhole⟩
  · intro value source offset result part offset' result' r hpart hinner
    exact extract_of_extract hpart hinner

/-- A word of all eight bytes cut three bytes above its end, and two bytes of the upper part. -/
theorem concat_extract_invert_compose_uneven :
    (∃ upper lower whole, extract 0xf1e2d3c4b5a69788 8 3 5 = .ok upper ∧
      extract 0xf1e2d3c4b5a69788 8 0 3 = .ok lower ∧ concat upper 5 lower 3 = .ok whole ∧
      whole.toNat = 0xf1e2d3c4b5a69788) ∧
    extract 0xf1e2d3c4b5a69788 8 (3 + 1) 2 = .ok 0xd3c4 ∧
    concatFromHigh 0xf1 1 0xe2d3c4b5 4 0xa69788 3 =
      concatFromLow 0xf1 1 0xe2d3c4b5 4 0xa69788 3 := by
  obtain ⟨_, _, _, hjoined, hassoc, hcompose⟩ := concat_extract_invert_compose
  exact ⟨hjoined _ 8 3 (by decide) (by decide) (by decide),
    hcompose _ 8 3 5 0xf1e2d3c4b5 1 2 _ (by decide) (by decide),
    (hassoc _ _ _ _ _ _ (by decide)).1⟩

end Counterpart.Word
