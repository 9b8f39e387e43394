/-
What the definitions of the header compute.  The line of a definition, read and called with whole
words, gives the value of the result type whose pattern is that of the operation on bytes.
-/
import Counterpart.Proofs.Header.Emitted
import Counterpart.Proofs.Header.Evaluation
import Counterpart.Proofs.Word

namespace Counterpart.Header

open ScalarValue CExpr CDefinition

/-- A word as an argument. -/
def wordValue (word : Word) : ScalarValue := ⟨unsignedWord, word⟩

theorem toInt_wordValue (word : Word) : (wordValue word).toInt = word.toNat := rfl

/-- The container of a width is an unsigned integer type that holds it. -/
theorem exists_containerType {width : Nat} (hwidth : width ≤ 8) :
    ∃ w, containerType width = .int w false ∧ 8 * width ≤ w.bits := by
  have hcases : ∀ width ≤ 8, ∃ w ∈ Width.all,
      containerType width = .int w false ∧ 8 * width ≤ w.bits := by decide
  obtain ⟨w, -, hw⟩ := hcases width hwidth
  exact ⟨w, hw⟩

variable {env : String → Option ScalarValue} {name : String} {e : CExpr}

theorem comesTo_taken (w : Width) (signed : Bool) {v : ScalarValue} (henv : env name = some v)
    (hinteger : v.ty.isInteger = true) :
    (taken (.int w signed) name).ComesTo env (.int w signed)
      (ofInt (.int w signed) v.toInt).toInt :=
  comesTo_cast w signed (comesTo_argument henv hinteger)

/-- The low bytes of a word, taken into the container of as many bytes or more. -/
theorem comesTo_low {word : Word} {width container : Nat} (henv : env name = some (wordValue word))
    (hwidth : width ≤ container) (hcontainer : container ≤ 8) :
    (masked (taken (containerType container) name) width).ComesTo env unsignedWord
      (word.toNat % 2 ^ (8 * width) : Nat) := by
  obtain ⟨w, hw, hbits⟩ := exists_containerType hcontainer
  have hdvd : ((2 ^ (8 * width) : Nat) : Int) ∣ (2 ^ w.bits : Nat) :=
    Int.natCast_dvd_natCast.2 (Nat.pow_dvd_pow 2 (by omega))
  have hmasked := comesTo_masked (k := width) (by omega)
    (comesTo_taken w false henv rfl)
  rw [toInt_ofInt_unsigned, Int.emod_emod_of_dvd _ hdvd, toInt_wordValue,
    ← Int.natCast_emod] at hmasked
  rw [hw]
  exact hmasked

/-- A result that its container holds is the pattern of its number. -/
theorem eval?_result {ty : ScalarType} {width : Nat} {r : Word} (hwidth : width ≤ 8)
    (hr : r.toNat < 2 ^ (8 * width)) (he : e.ComesTo env ty r.toNat) :
    (result (containerType width) e).eval? env = some ⟨containerType width, r⟩ := by
  obtain ⟨w, hw, hbits⟩ := exists_containerType hwidth
  have hlt : (r.toNat : Int) < (2 ^ w.bits : Nat) :=
    Int.ofNat_lt.2 (Nat.lt_of_lt_of_le hr (Nat.pow_le_pow_right (by decide) hbits))
  obtain ⟨⟨-, bits⟩, heval, rfl, hvalue⟩ := comesTo_cast w false he
  rw [toInt_ofInt_unsigned, Int.emod_eq_of_lt (Int.natCast_nonneg _) hlt] at hvalue
  have hbits : bits = r := BitVec.eq_of_toNat_eq (Int.ofNat_inj.1 hvalue)
  rw [hw, ← hbits]
  exact heval

/-- The amount of a shift by whole bytes. -/
theorem comesTo_bytes (width : Nat) (hwidth : width ≤ 8) :
    (number (width * 8)).ComesTo env .plainInt (8 * width : Nat) := by
  rw [Nat.mul_comm 8 width]
  exact comesTo_number (by omega)

theorem concat_gives (env : String → Option ScalarValue) {a b : Word}
    (ha : env "a" = some (wordValue a)) (hb : env "b" = some (wordValue b)) {high low : Nat}
    (hhigh : 1 ≤ high) (hlow : 1 ≤ low) (htotal : high + low ≤ 8) :
    ∃ r, Word.concat a high b low = .ok r ∧
      (concat high low).body.eval? env = some ⟨containerType (high + low), r⟩ := by
  obtain ⟨r, hr, hvalue⟩ := Word.exists_concat a b hhigh hlow htotal
  have hlower : b.toNat % 2 ^ (8 * low) < 2 ^ (8 * low) := Nat.mod_lt _ (Nat.two_pow_pos _)
  have hlt : r.toNat < 2 ^ (8 * high + 8 * low) :=
    hvalue ▸ Word.concat_lt (Nat.mod_lt _ (Nat.two_pow_pos _)) hlower
  have hkept : a.toNat % 2 ^ (8 * high) * 2 ^ (8 * low) < 2 ^ 64 :=
    Nat.lt_of_le_of_lt (hvalue ▸ Nat.le_add_right _ _) r.isLt
  -- No bit of the high bytes is shifted out of the word, as the result has them all.
  have hshifted := comesTo_shiftLeft (k := 8 * low) (by omega)
    (comesTo_group (comesTo_low ha (Nat.le_add_right high low) htotal))
    (comesTo_bytes low (by omega))
  rw [← Int.natCast_mul, ← Int.natCast_emod, Nat.mod_eq_of_lt hkept] at hshifted
  have hjoined := comesTo_bitOr hlower (comesTo_group hshifted)
    (comesTo_group (comesTo_low hb (Nat.le_add_left low high) htotal))
  rw [← hvalue] at hjoined
  exact ⟨r, hr, eval?_result htotal (Nat.mul_add 8 high low ▸ hlt) hjoined⟩

/-- A whole number of bytes as an amount, whatever integer type it comes in. -/
theorem comesTo_offset {off : ScalarValue} {offset : Nat} (hoff : env name = some off)
    (hinteger : off.ty.isInteger = true) (hvalue : off.toInt = offset) (hle : offset ≤ 8) :
    ∃ ty, (binary .times (.group (.argument name)) (.number 8)).ComesTo env ty
      (8 * offset : Nat) := by
  obtain ⟨w, signed, hty⟩ : ∃ w signed, off.ty = .int w signed := by
    cases hty : off.ty with
    | int w signed => exact ⟨w, signed, rfl⟩
    | f32 | f64 => cases hty ▸ hinteger
  have hargument := comesTo_group (comesTo_argument hoff hinteger)
  rw [hty, hvalue] at hargument
  have height : (number 8).ComesTo env .plainInt (8 : Nat) := comesTo_number (by decide)
  obtain ⟨v, s, hproduct⟩ := comesTo_times hargument height (by omega) (by omega) (by omega)
  rw [← Int.natCast_mul, Nat.mul_comm] at hproduct
  exact ⟨.int v s, hproduct⟩

theorem extract_gives (env : String → Option ScalarValue) {a : Word} {off : ScalarValue}
    {offset : Nat} (ha : env "a" = some (wordValue a)) (hoff : env "off" = some off)
    (hinteger : off.ty.isInteger = true) (hoffset : off.toInt = offset) {source width : Nat}
    (hwidth : 1 ≤ width) (hsource : source ≤ 8) (hfits : offset + width ≤ source) :
    ∃ r, Word.extract a source offset width = .ok r ∧
      (extract source width).body.eval? env = some ⟨containerType width, r⟩ := by
  obtain ⟨r, hr, hvalue⟩ := Word.exists_extract a hwidth hsource hfits
  have hlt : r.toNat < 2 ^ (8 * width) := hvalue ▸ Nat.mod_lt _ (Nat.two_pow_pos _)
  obtain ⟨ty, hamount⟩ := comesTo_offset hoff hinteger hoffset (by omega)
  have hshifted := comesTo_group (comesTo_shiftRight (by omega)
    (comesTo_group (comesTo_low ha (Nat.le_refl source) hsource)) (comesTo_group hamount))
  have hmasked := comesTo_masked (k := width) (by omega) hshifted
  rw [← Int.natCast_ediv, ← Int.natCast_emod, Word.mod_div_mod _ (by omega), ← hvalue] at hmasked
  exact ⟨r, hr, eval?_result (by omega) hlt hmasked⟩

theorem zeroExtend_gives (env : String → Option ScalarValue) {a : Word}
    (ha : env "a" = some (wordValue a)) {source target : Nat}
    (hpos : 1 ≤ source) (hle : source ≤ target) (htarget : target ≤ 8) :
    ∃ r, Word.zeroExtend a source = .ok r ∧
      (zeroExtend source target).body.eval? env = some ⟨containerType target, r⟩ := by
  obtain ⟨r, hr, hvalue⟩ := Word.exists_zeroExtend a hpos (by omega)
  have hlt : r.toNat < 2 ^ (8 * target) := by
    have hlow : r.toNat < 2 ^ (8 * source) := hvalue ▸ Nat.mod_lt _ (Nat.two_pow_pos _)
    exact Nat.lt_of_lt_of_le hlow (Nat.pow_le_pow_right (by decide) (by omega))
  have hmasked := comesTo_low ha (Nat.le_refl source) (by omega)
  rw [← hvalue] at hmasked
  exact ⟨r, hr, eval?_result htarget hlt hmasked⟩

theorem signExtend_gives (env : String → Option ScalarValue) {a : Word}
    (ha : env "a" = some (wordValue a)) {source target : Nat}
    (hpos : 1 ≤ source) (hle : source ≤ target) (htarget : target ≤ 8) :
    ∃ r, Word.signExtend a source target = .ok r ∧
      (signExtend source target).body.eval? env = some ⟨containerType target, r⟩ := by
  obtain ⟨r, hr, hvalue⟩ := Word.exists_signExtend a hpos hle htarget
  have hlt : r.toNat < 2 ^ (8 * target) := by
    have hmod : (r.toNat : Int) < (2 ^ (8 * target) : Nat) :=
      hvalue ▸ Int.emod_lt_of_pos _ (Int.natCast_pos.2 (Nat.two_pow_pos _))
    exact Int.ofNat_lt.1 hmod
  have hshift : (number (64 - source * 8)).ComesTo env .plainInt (64 - source * 8 : Nat) :=
    comesTo_number (by omega)
  -- The bytes go up in an unsigned word and come down in a signed one, which repeats their sign.
  have hraised := comesTo_cast .w8 true (comesTo_group
    (comesTo_shiftLeft (by omega) (comesTo_taken .w8 false ha rfl) hshift))
  have hlowered := comesTo_shiftRight (by omega) hraised hshift
  have hmasked := comesTo_masked htarget (comesTo_group hlowered)
  have hbits : Width.w8.bits = 64 := rfl
  have hword : ((a.toNat : Int) % (2 ^ 64 : Nat)) = a.toNat :=
    Int.emod_eq_of_lt (Int.natCast_nonneg _) (Int.ofNat_lt.2 a.isLt)
  rw [toInt_ofInt_signed, toInt_ofInt_unsigned, toInt_wordValue, hbits, hword,
    Word.bmod_shift _ hpos (by omega), ← hvalue] at hmasked
  exact ⟨r, hr, eval?_result htarget hlt hmasked⟩

/-- The value that the definition of a line has for its arguments. -/
def callLine? (line : String) (arguments : List ScalarValue) : Option ScalarValue :=
  (CDefinition.read? line).bind (·.call? arguments)

/-- The line of the definition stands in the header, and called with the arguments it gives the
result that the operation has, in the container of `width` bytes. -/
def Computes (d : CDefinition) (arguments : List ScalarValue) (width : Nat)
    (operation : Except WidthError Word) : Prop :=
  d.line ∈ lines ∧
    ∃ r, operation = .ok r ∧ callLine? d.line arguments = some ⟨containerType width, r⟩

theorem callLine?_line {d : CDefinition} (hd : d.Readable) {arguments : List ScalarValue}
    (hlength : d.arguments.length = arguments.length) :
    callLine? d.line arguments = d.body.eval? (environment d.arguments arguments) := by
  rw [callLine?, CDefinition.read?_line hd, Option.bind_some, CDefinition.call?, if_pos hlength]

theorem line_mem_lines {d : CDefinition} (hd : d ∈ concats ∨ d ∈ extracts ∨ d ∈ extensions) :
    d.line ∈ lines := by
  have hmap : ∀ {ds : List CDefinition}, d ∈ ds → d.line ∈ ds.map (·.line) :=
    fun hmem => List.mem_map.2 ⟨d, hmem, rfl⟩
  simp only [lines, List.mem_append]
  rcases hd with hd | hd | hd <;> simp only [hmap hd, true_or, or_true]

/-- The line computes what the body gives for the arguments under their names. -/
theorem computes_of_body {d : CDefinition} {arguments : List ScalarValue} {width : Nat}
    {operation : Except WidthError Word} (hd : d.Readable)
    (hmem : d ∈ concats ∨ d ∈ extracts ∨ d ∈ extensions)
    (hlength : d.arguments.length = arguments.length)
    (hbody : ∃ r, operation = .ok r ∧
      d.body.eval? (environment d.arguments arguments) = some ⟨containerType width, r⟩) :
    Computes d arguments width operation := by
  obtain ⟨r, hr, heval⟩ := hbody
  refine ⟨line_mem_lines hmem, r, hr, ?_⟩
  rw [callLine?_line hd hlength, heval]

theorem concat_computes {high low : Nat} (hmem : concat high low ∈ concats) (a b : Word) :
    Computes (concat high low) [wordValue a, wordValue b] (high + low)
      (Word.concat a high b low) := by
  obtain ⟨hhigh, hlow, htotal⟩ := mem_concats_iff.1 hmem
  apply computes_of_body (readable_concat high low) (Or.inl hmem) rfl
  exact concat_gives _ rfl rfl hhigh hlow htotal

theorem extract_computes {source width : Nat} (hmem : extract source width ∈ extracts) (a : Word)
    {off : ScalarValue} {offset : Nat} (hinteger : off.ty.isInteger = true)
    (hoffset : off.toInt = offset) (hfits : offset + width ≤ source) :
    Computes (extract source width) [wordValue a, off] width
      (Word.extract a source offset width) := by
  obtain ⟨hwidth, -, hsource⟩ := mem_extracts_iff.1 hmem
  apply computes_of_body (readable_extract source width) (Or.inr (Or.inl hmem)) rfl
  exact extract_gives _ rfl rfl hinteger hoffset hwidth hsource hfits

theorem zeroExtend_computes {source target : Nat} (hmem : zeroExtend source target ∈ extensions)
    (a : Word) :
    Computes (zeroExtend source target) [wordValue a] target (Word.zeroExtend a source) := by
  obtain ⟨hpos, hlt, htarget⟩ := zeroExtend_mem_iff.1 hmem
  apply computes_of_body (readable_zeroExtend source target) (Or.inr (Or.inr hmem)) rfl
  exact zeroExtend_gives _ rfl hpos (Nat.le_of_lt hlt) htarget

theorem signExtend_computes {source target : Nat} (hmem : signExtend source target ∈ extensions)
    (a : Word) :
    Computes (signExtend source target) [wordValue a] target (Word.signExtend a source target) := by
  obtain ⟨hpos, hlt, htarget⟩ := signExtend_mem_iff.1 hmem
  apply computes_of_body (readable_signExtend source target) (Or.inr (Or.inr hmem)) rfl
  exact signExtend_gives _ rfl hpos (Nat.le_of_lt hlt) htarget

/-- What the header defines is what the operations on bytes do, for all widths it defines and all
words.  An offset may come in any integer type. -/
theorem definitions_compute :
    (∀ high low, concat high low ∈ concats → ∀ a b : Word,
      Computes (concat high low) [wordValue a, wordValue b] (high + low)
        (Word.concat a high b low)) ∧
    (∀ source width, extract source width ∈ extracts → ∀ (a : Word) (off : ScalarValue)
      (offset : Nat), off.ty.isInteger = true → off.toInt = offset → offset + width ≤ source →
      Computes (extract source width) [wordValue a, off] width
        (Word.extract a source offset width)) ∧
    (∀ source target, zeroExtend source target ∈ extensions → ∀ a : Word,
      Computes (zeroExtend source target) [wordValue a] target (Word.zeroExtend a source)) ∧
    (∀ source target, signExtend source target ∈ extensions → ∀ a : Word,
      Computes (signExtend source target) [wordValue a] target
        (Word.signExtend a source target)) := by
  refine ⟨?_, ?_, ?_, ?_⟩
  · intro high low hmem a b
    exact concat_computes hmem a b
  · intro source width hmem a off offset hinteger hoffset hfits
    exact extract_computes hmem a hinteger hoffset hfits
  · intro source target hmem a
    exact zeroExtend_computes hmem a
  · intro source target hmem a
    exact signExtend_computes hmem a

namespace OddWidths

/-- Words with bits above the bytes that are used. -/
def high : Word := 0xF1E2D3C4B5A69788

def low : Word := 0x0123456789ABCDEF

/-- The definitions at widths that no container has. -/
theorem definitions_compute_odd_widths :
    (concat 3 5 ∈ concats ∧ Computes (concat 3 5) [wordValue high, wordValue low] 8
      (Word.concat high 3 low 5)) ∧
    (extract 7 3 ∈ extracts ∧ Computes (extract 7 3) [wordValue high, ⟨.int .w4 true, 4⟩] 3
      (Word.extract high 7 4 3)) ∧
    (zeroExtend 5 6 ∈ extensions ∧ Computes (zeroExtend 5 6) [wordValue high] 6
      (Word.zeroExtend high 5)) ∧
    (signExtend 3 5 ∈ extensions ∧ Computes (signExtend 3 5) [wordValue high] 5
      (Word.signExtend high 3 5)) := by
  have hconcat : concat 3 5 ∈ concats := mem_concats_iff.2 (by decide)
  have hextract : extract 7 3 ∈ extracts := mem_extracts_iff.2 (by decide)
  have hzero : zeroExtend 5 6 ∈ extensions := zeroExtend_mem_iff.2 (by decide)
  have hsign : signExtend 3 5 ∈ extensions := signExtend_mem_iff.2 (by decide)
  obtain ⟨concats, extracts, zeros, signs⟩ := definitions_compute
  exact ⟨⟨hconcat, concats 3 5 hconcat high low⟩,
    ⟨hextract, extracts 7 3 hextract high ⟨.int .w4 true, 4⟩ 4 rfl (by decide) (by decide)⟩,
    ⟨hzero, zeros 5 6 hzero high⟩, ⟨hsign, signs 3 5 hsign high⟩⟩

example : callLine?
    "#define SEXT35(a) ((uint8)(((int8)(((uint8)(a)) << 40) >> 40) & 0xFFFFFFFFFFULL))"
    [wordValue high] = some ⟨.int .w8 false, 0xFFFFA69788⟩ := by
  decide +kernel

end OddWidths

end Counterpart.Header
