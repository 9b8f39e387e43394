/-
Words widened.  Sign extension keeps the number that the bytes stand for in two's complement and
zero extension keeps the one they stand for without a sign; the two agree unless the sign bit is
set and bytes are added, and those are then all ones.
-/
import Counterpart.Proofs.Word.Splitting

namespace Counterpart.Word

/-- The number that the low bytes of a word stand for in two's complement: the upper half of the
patterns counts up to zero. -/
def signedNumber (width : Nat) (v : Word) : Int :=
  let n := v.toNat % 2 ^ (8 * width)
  if n < 2 ^ (8 * width - 1) then n else n - (2 ^ (8 * width) : Nat)

section

variable {v r : Word} {width source target : Nat}

theorem two_pow_bits (hpos : 1 ≤ width) : 2 ^ (8 * width) = 2 * 2 ^ (8 * width - 1) := by
  rw [← Nat.pow_succ']
  congr 1
  omega

theorem signedNumber_eq_bmod (v : Word) (hpos : 1 ≤ width) :
    signedNumber width v = (v.toNat : Int).bmod (2 ^ (8 * width)) := by
  have hhalf : ((2 ^ (8 * width) : Nat) + 1 : Int) / 2 = (2 ^ (8 * width - 1) : Nat) := by
    have hbits := two_pow_bits hpos
    omega
  rw [Int.bmod_def, hhalf, ← Int.natCast_emod, signedNumber]
  simp only [Int.ofNat_lt]

/-- The sign bit is set in the upper half of the patterns. -/
theorem getLsbD_sign (v : Word) (hpos : 1 ≤ width) :
    v.getLsbD (8 * width - 1) = decide (2 ^ (8 * width - 1) ≤ v.toNat % 2 ^ (8 * width)) := by
  have htop : 8 * width - 1 < 8 * width := by omega
  rw [← BitVec.toNat_setWidth, ← BitVec.msb_eq_decide, BitVec.msb_eq_getLsbD_last,
    BitVec.getLsbD_setWidth, decide_eq_true htop, Bool.true_and]

/-- The number in two's complement lies in the range of every width that is not smaller. -/
theorem bmod_signedNumber (v : Word) (hpos : 1 ≤ source) (hle : source ≤ target) :
    (signedNumber source v).bmod (2 ^ (8 * target)) = signedNumber source v := by
  have hsource := two_pow_bits hpos
  have htarget := two_pow_bits (Nat.le_trans hpos hle)
  have hhalves : 2 ^ (8 * source - 1) ≤ 2 ^ (8 * target - 1) :=
    Nat.pow_le_pow_right (by decide) (by omega)
  have hlt : v.toNat % 2 ^ (8 * source) < 2 ^ (8 * source) := Nat.mod_lt _ (Nat.two_pow_pos _)
  unfold signedNumber
  generalize v.toNat % 2 ^ (8 * source) = n at hlt ⊢
  by_cases hn : n < 2 ^ (8 * source - 1)
  · simp only [hn, if_true]
    exact Int.bmod_eq_of_le (by omega) (by omega)
  · simp only [hn, if_false]
    exact Int.bmod_eq_of_le (by omega) (by omega)

/-- A widened word is known by its number. -/
theorem signExtend_eq_ok_iff : signExtend v source target = .ok r ↔
    (1 ≤ source ∧ source ≤ target ∧ target ≤ 8) ∧
      (r.toNat : Int) = signedNumber source v % (2 ^ (8 * target) : Nat) := by
  refine eq_ok_iff_of_number (fun _ _ hsame => toNat_injective (Int.ofNat.inj hsame)) ?_ ?_
  · intro r hextend
    obtain ⟨_, hsource, hrest⟩ := bind_eq_ok_iff.1 hextend
    obtain ⟨_, htarget, hfits⟩ := bind_eq_ok_iff.1 hrest
    have hle := not_of_guard_eq_ok hfits
    exact ⟨(checkWidth_eq_ok_iff.1 hsource).1, Nat.le_of_not_lt hle,
      (checkWidth_eq_ok_iff.1 htarget).2⟩
  · rintro ⟨hpos, hle, htarget⟩
    rw [signedNumber_eq_bmod v hpos]
    exact exists_signExtend v hpos hle htarget

theorem signedNumber_of_signExtend (hextend : signExtend v source target = .ok r) :
    signedNumber target r = signedNumber source v := by
  obtain ⟨⟨hpos, hle, _⟩, hr⟩ := signExtend_eq_ok_iff.1 hextend
  rw [signedNumber_eq_bmod r (Nat.le_trans hpos hle), hr, Int.emod_bmod,
    bmod_signedNumber v hpos hle]

/-- Widening in two steps is widening at once. -/
theorem signExtend_of_signExtend {middle : Nat} {part : Word}
    (hpart : signExtend v source middle = .ok part)
    (hwide : signExtend v source target = .ok r) (hle : middle ≤ target) :
    signExtend part middle target = .ok r := by
  obtain ⟨⟨hpos, hmiddle, _⟩, _⟩ := signExtend_eq_ok_iff.1 hpart
  obtain ⟨⟨_, _, htarget⟩, hr⟩ := signExtend_eq_ok_iff.1 hwide
  refine signExtend_eq_ok_iff.2 ⟨⟨Nat.le_trans hpos hmiddle, hle, htarget⟩, ?_⟩
  rw [hr, signedNumber_of_signExtend hpart]

/-- Where the sign bit is clear, the added bytes are zero. -/
theorem toNat_of_sign_clear (hextend : signExtend v source target = .ok r)
    (hclear : v.getLsbD (8 * source - 1) = false) : r.toNat = v.toNat % 2 ^ (8 * source) := by
  obtain ⟨⟨hpos, hle, _⟩, hr⟩ := signExtend_eq_ok_iff.1 hextend
  rw [getLsbD_sign v hpos, decide_eq_false_iff_not, Nat.not_le] at hclear
  have hlt : v.toNat % 2 ^ (8 * source) < 2 ^ (8 * target) :=
    Nat.lt_of_lt_of_le (Nat.mod_lt _ (Nat.two_pow_pos _))
      (Nat.pow_le_pow_right (by decide) (by omega))
  simp only [signedNumber, hclear, if_true] at hr
  rw [← Int.natCast_emod, Nat.mod_eq_of_lt hlt] at hr
  exact Int.ofNat.inj hr

/-- Where the sign bit is set, all bits of the added bytes are. -/
theorem toNat_of_sign_set (hextend : signExtend v source target = .ok r)
    (hset : v.getLsbD (8 * source - 1) = true) :
    r.toNat + 2 ^ (8 * source) = v.toNat % 2 ^ (8 * source) + 2 ^ (8 * target) := by
  obtain ⟨⟨hpos, hle, _⟩, hr⟩ := signExtend_eq_ok_iff.1 hextend
  rw [getLsbD_sign v hpos, decide_eq_true_iff, ← Nat.not_lt] at hset
  have hlt : v.toNat % 2 ^ (8 * source) < 2 ^ (8 * source) := Nat.mod_lt _ (Nat.two_pow_pos _)
  have hpowers : 2 ^ (8 * source) ≤ 2 ^ (8 * target) :=
    Nat.pow_le_pow_right (by decide) (by omega)
  simp only [signedNumber, hset, if_false] at hr
  rw [← Int.add_emod_right, Int.emod_eq_of_lt (by omega) (by omega)] at hr
  omega

/-- The low bytes of a widened word are those of the word. -/
theorem toNat_mod_of_signExtend (hextend : signExtend v source target = .ok r) :
    r.toNat % 2 ^ (8 * source) = v.toNat % 2 ^ (8 * source) := by
  obtain ⟨⟨_, hle, _⟩, _⟩ := signExtend_eq_ok_iff.1 hextend
  cases hsign : v.getLsbD (8 * source - 1) with
  | false => rw [toNat_of_sign_clear hextend hsign, Nat.mod_mod]
  | true =>
      have hdvd : 2 ^ (8 * source) ∣ 2 ^ (8 * target) := Nat.pow_dvd_pow 2 (by omega)
      rw [← Nat.add_mod_right, toNat_of_sign_set hextend hsign, Nat.add_mod,
        Nat.mod_eq_zero_of_dvd hdvd, Nat.add_zero, Nat.mod_mod, Nat.mod_mod]

/-- The kept bytes are known by their number. -/
theorem zeroExtend_eq_ok_iff : zeroExtend v width = .ok r ↔
    IsWidth width ∧ r.toNat = v.toNat % 2 ^ (8 * width) := by
  refine eq_ok_iff_of_number toNat_injective ?_ ?_
  · intro r hextend
    obtain ⟨_, hwidth, _⟩ := bind_eq_ok_iff.1 hextend
    exact checkWidth_eq_ok_iff.1 hwidth
  · intro hwidth
    exact exists_zeroExtend v hwidth.1 hwidth.2

/-- The low bytes are raised to the top of a word and brought back down with their sign. -/
theorem toInt_sshiftRight_shiftLeft (v : Word) (hpos : 1 ≤ source) (hsource : source ≤ 8) :
    ((v <<< (64 - 8 * source)).sshiftRight (64 - 8 * source)).toInt = signedNumber source v := by
  have hraised : (v <<< (64 - 8 * source)).toInt =
      ((v.toNat : Int) * (2 ^ (64 - source * 8) : Nat) % (2 ^ 64 : Nat)).bmod (2 ^ 64) := by
    rw [BitVec.toInt_eq_toNat_bmod, BitVec.toNat_shiftLeft, Nat.shiftLeft_eq,
      Nat.mul_comm 8, Int.natCast_emod, Int.natCast_mul]
  rw [BitVec.toInt_sshiftRight, hraised, Int.shiftRight_eq_div_pow, Nat.mul_comm 8 source,
    bmod_shift _ hpos hsource, signedNumber_eq_bmod v hpos]

/-- What is brought back down is cut to the target. -/
theorem toNat_sshiftRight_mask (v : Word) (hpos : 1 ≤ source) (hsource : source ≤ 8)
    (htarget : target ≤ 8) :
    (((v <<< (64 - 8 * source)).sshiftRight (64 - 8 * source) &&& mask target).toNat : Int) =
      signedNumber source v % (2 ^ (8 * target) : Nat) := by
  have hdvd : ((2 ^ (8 * target) : Nat) : Int) ∣ (2 ^ 64 : Nat) :=
    Int.natCast_dvd_natCast.2 (Nat.pow_dvd_pow 2 (by omega))
  rw [toNat_and_mask htarget, Int.natCast_emod, ← toInt_sshiftRight_shiftLeft v hpos hsource,
    BitVec.toInt_eq_toNat_bmod, ← Int.emod_emod_of_dvd (Int.bmod _ _) hdvd, Int.bmod_emod,
    Int.emod_emod_of_dvd _ hdvd]

/-- An extended word in masks and shifts. -/
theorem signExtend_eq_shift_mask (hextend : signExtend v source target = .ok r) :
    r = (v <<< (64 - 8 * source)).sshiftRight (64 - 8 * source) &&& mask target := by
  obtain ⟨⟨hpos, hle, htarget⟩, hr⟩ := signExtend_eq_ok_iff.1 hextend
  have hnumber := toNat_sshiftRight_mask v hpos (Nat.le_trans hle htarget) htarget
  exact BitVec.eq_of_toNat_eq (Int.ofNat.inj (hr.trans hnumber.symm))

/-- The kept bytes as a mask. -/
theorem zeroExtend_eq_mask (hextend : zeroExtend v width = .ok r) : r = v &&& mask width := by
  obtain ⟨hwidth, hr⟩ := zeroExtend_eq_ok_iff.1 hextend
  exact BitVec.eq_of_toNat_eq (hr.trans (toNat_and_mask hwidth.2 v).symm)

/-- The two extensions differ exactly where a set sign bit is repeated. -/
theorem signExtend_eq_zeroExtend_iff {low : Word} (hwide : signExtend v source target = .ok r)
    (hlow : zeroExtend v source = .ok low) :
    r = low ↔ v.getLsbD (8 * source - 1) = false ∨ source = target := by
  obtain ⟨⟨_, hle, _⟩, _⟩ := signExtend_eq_ok_iff.1 hwide
  obtain ⟨_, hlowNumber⟩ := zeroExtend_eq_ok_iff.1 hlow
  rw [← BitVec.toNat_inj, hlowNumber]
  by_cases hsign : v.getLsbD (8 * source - 1) = true
  · have hnumber := toNat_of_sign_set hwide hsign
    have hwidths : 2 ^ (8 * source) = 2 ^ (8 * target) ↔ source = target := by
      rw [Nat.pow_right_inj (Nat.le_refl 2)]
      omega
    rw [hsign, ← hwidths]
    simp only [Bool.true_eq_false, false_or]
    omega
  · rw [Bool.not_eq_true] at hsign
    exact iff_of_true (toNat_of_sign_clear hwide hsign) (.inl hsign)

/-- A set sign bit puts ones above the bytes. -/
theorem concat_ones_of_sign_set {low : Word} (hwide : signExtend v source target = .ok r)
    (hlow : zeroExtend v source = .ok low) (hlt : source < target)
    (hset : v.getLsbD (8 * source - 1) = true) :
    concat (mask (target - source)) (target - source) low source = .ok r := by
  obtain ⟨⟨hpos, hle, htarget⟩, _⟩ := signExtend_eq_ok_iff.1 hwide
  obtain ⟨hsource, hlowNumber⟩ := zeroExtend_eq_ok_iff.1 hlow
  have hnumber := toNat_of_sign_set hwide hset
  have hsplit : 2 ^ (8 * target) = 2 ^ (8 * (target - source)) * 2 ^ (8 * source) := by
    rw [← Nat.pow_add]
    congr 1
    omega
  have hones : 2 ^ (8 * (target - source)) - 1 < 2 ^ (8 * (target - source)) :=
    Nat.sub_lt (Nat.two_pow_pos _) (by decide)
  have hpowers : 2 ^ (8 * source) ≤ 2 ^ (8 * target) :=
    Nat.pow_le_pow_right (by decide) (by omega)
  refine concat_eq_ok_iff.2 ⟨⟨⟨by omega, by omega⟩, hsource, by omega⟩, ?_⟩
  rw [toNat_mask _ (by omega), Nat.mod_eq_of_lt hones, hlowNumber, Nat.mod_mod, Nat.sub_mul,
    ← hsplit, Nat.one_mul]
  omega

end

/-- Extensions keep the number, the one in two's complement or the one without a sign, and they are
what masks and shifts come to.  Widening in two steps is widening at once, keeping bytes twice is
keeping them once, and the kept bytes are the low ones of the widened word; the two extensions agree
exactly if the sign bit is clear or nothing is added, and else the added bytes are all ones. -/
theorem extensions_keep_number (v : Word) {source middle target : Nat} (hpos : 1 ≤ source)
    (hmiddle : source ≤ middle) (htarget : middle ≤ target) (hword : target ≤ 8) :
    ∃ wide part low, signExtend v source target = .ok wide ∧
      signExtend v source middle = .ok part ∧ zeroExtend v source = .ok low ∧
      wide = (v <<< (64 - 8 * source)).sshiftRight (64 - 8 * source) &&& mask target ∧
      low = v &&& mask source ∧
      signedNumber target wide = signedNumber source v ∧
      low.toNat = v.toNat % 2 ^ (8 * source) ∧
      signExtend part middle target = .ok wide ∧
      zeroExtend low source = .ok low ∧
      extract wide target 0 source = .ok low ∧
      (wide = low ↔ v.getLsbD (8 * source - 1) = false ∨ source = target) ∧
      (source < target → v.getLsbD (8 * source - 1) = true →
        concat (mask (target - source)) (target - source) low source = .ok wide) := by
  have hle : source ≤ target := Nat.le_trans hmiddle htarget
  have hsource : IsWidth source := ⟨hpos, Nat.le_trans hle hword⟩
  obtain ⟨wide, hwide, _⟩ := exists_signExtend v hpos hle hword
  obtain ⟨part, hpart, _⟩ := exists_signExtend v hpos hmiddle (Nat.le_trans htarget hword)
  obtain ⟨low, hlow, hnumber⟩ := exists_zeroExtend v hsource.1 hsource.2
  refine ⟨wide, part, low, hwide, hpart, hlow, signExtend_eq_shift_mask hwide,
    zeroExtend_eq_mask hlow, signedNumber_of_signExtend hwide, hnumber,
    signExtend_of_signExtend hpart hwide htarget, ?_, ?_, signExtend_eq_zeroExtend_iff hwide hlow,
    concat_ones_of_sign_set hwide hlow⟩
  · refine zeroExtend_eq_ok_iff.2 ⟨hsource, ?_⟩
    rw [hnumber, Nat.mod_mod]
  · refine extract_eq_ok_iff.2 ⟨⟨⟨Nat.le_trans hpos hle, hword⟩, hsource, by omega⟩, ?_⟩
    rw [Nat.mul_zero, Nat.pow_zero, Nat.div_one, toNat_mod_of_signExtend hwide, hnumber]

/-- Three bytes with their sign bit set, widened over five to all eight. -/
theorem extensions_keep_number_odd :
    1 ≤ 3 ∧ 3 ≤ 5 ∧ 5 ≤ 8 ∧ 8 ≤ 8 ∧
      signedNumber 3 0x11223344ff800001 = -8388607 ∧
      signExtend 0x11223344ff800001 3 8 = .ok 0xffffffffff800001 ∧
      signedNumber 8 0xffffffffff800001 = -8388607 ∧
      signExtend 0xffff800001 5 8 = .ok 0xffffffffff800001 ∧
      extract 0xffffffffff800001 8 0 3 = .ok 0x800001 ∧
      concat 0xffffffffff 5 0x800001 3 = .ok 0xffffffffff800001 := by
  obtain ⟨wide, part, low, hwide, hpart, hlow, _, _, hnumber, _, hsteps, _, hextract, _, hones⟩ :=
    @extensions_keep_number 0x11223344ff800001 3 5 8 (by decide) (by decide) (by decide) (by decide)
  cases (show signExtend 0x11223344ff800001 3 8 = .ok 0xffffffffff800001 by decide).symm.trans hwide
  cases (show signExtend 0x11223344ff800001 3 5 = .ok 0xffff800001 by decide).symm.trans hpart
  cases (show zeroExtend 0x11223344ff800001 3 = .ok 0x800001 by decide).symm.trans hlow
  have hread : signedNumber 3 0x11223344ff800001 = -8388607 := by decide
  exact ⟨by decide, by decide, by decide, by decide, hread, hwide, hnumber.trans hread, hsteps,
    hextract, hones (by decide) (by decide)⟩

end Counterpart.Word
