/-
Numerals read back.  The digits of a number have its value, every byte is its pair of
digits, and no digit is a sign.
-/
import Counterpart.Text.Hex

namespace Counterpart.Text

/-- The bases whose digits can be told apart. -/
def IsBase (base : Nat) : Prop :=
  2 ≤ base ∧ base ≤ 16

theorem isBase_ten : IsBase 10 := ⟨by decide, by decide⟩

theorem isBase_sixteen : IsBase 16 := ⟨by decide, by decide⟩

variable {base : Nat}

theorem digitValue?_digitChar (hbase : IsBase base) {d : Nat} (hd : d < base) :
    digitValue? base d.digitChar = some d := by
  have hsixteen : ∀ d < 16, digitValue? 16 d.digitChar = some d := by decide
  have hvalue := hsixteen d (Nat.lt_of_lt_of_le hd hbase.2)
  simp only [digitValue?, Option.filter_eq_some_iff] at hvalue ⊢
  exact ⟨hvalue.1, decide_eq_true hd⟩

theorem digitChar_ne_plus : ∀ d < 16, d.digitChar ≠ '+' := by decide

/-- The characters of a numeral are digits of its base. -/
theorem exists_digit_of_mem_toDigits (hbase : IsBase base) {n : Nat} {c : Char}
    (hc : c ∈ Nat.toDigits base n) : ∃ d < base, c = d.digitChar := by
  induction n using Nat.strongRecOn with
  | ind n ih =>
      have hpos : 0 < base := Nat.lt_of_lt_of_le Nat.zero_lt_two hbase.1
      rw [Nat.toDigits_eq_if hbase.1] at hc
      split at hc
      · next hn => exact ⟨n, hn, List.mem_singleton.1 hc⟩
      · next hn =>
          rcases List.mem_append.1 hc with hfront | hlast
          · exact ih (n / base) (Nat.div_lt_self (by omega) hbase.1) hfront
          · exact ⟨n % base, Nat.mod_lt n hpos, List.mem_singleton.1 hlast⟩

theorem digitsFrom?_append (base value : Nat) (front back : List Char) :
    digitsFrom? base value (front ++ back) =
      (digitsFrom? base value front).bind fun value => digitsFrom? base value back := by
  induction front generalizing value with
  | nil => rfl
  | cons c front ih =>
      simp only [List.cons_append, digitsFrom?]
      cases digitValue? base c with
      | none => rfl
      | some d => exact ih (value * base + d)

/-- The induction drops the last digit, as `Nat.toDigits` puts it behind the others. -/
theorem digitsFrom?_toDigits (hbase : IsBase base) (n : Nat) :
    digitsFrom? base 0 (Nat.toDigits base n) = some n := by
  induction n using Nat.strongRecOn with
  | ind n ih =>
      rw [Nat.toDigits_eq_if hbase.1]
      split
      · next hn => simp [digitsFrom?, digitValue?_digitChar hbase hn]
      · next hn =>
          have hmod : n % base < base :=
            Nat.mod_lt n (Nat.lt_of_lt_of_le Nat.zero_lt_two hbase.1)
          rw [digitsFrom?_append, ih (n / base) (Nat.div_lt_self (by omega) hbase.1)]
          simp [digitsFrom?, digitValue?_digitChar hbase hmod, Nat.div_add_mod']

theorem digits?_toDigits (hbase : IsBase base) (n : Nat) :
    digits? base (Nat.toDigits base n) = some n := by
  have hne : (Nat.toDigits base n).isEmpty = false := by
    simp [Nat.toDigits_ne_nil]
  simp [digits?, hne, digitsFrom?_toDigits hbase n]

theorem decimal_ne_nil (n : Nat) : decimal n ≠ [] := Nat.toDigits_ne_nil

theorem hexadecimal_ne_nil (n : Nat) : hexadecimal n ≠ [] := Nat.toDigits_ne_nil

theorem integer_ne_nil (i : Int) : integer i ≠ [] := by
  cases i with
  | ofNat n => exact decimal_ne_nil n
  | negSucc n => exact List.cons_ne_nil _ _

theorem decimal_inj {m n : Nat} (h : decimal m = decimal n) : m = n := by
  have hm : digits? 10 (decimal m) = some m := digits?_toDigits isBase_ten m
  have hn : digits? 10 (decimal n) = some n := digits?_toDigits isBase_ten n
  rw [h, hn] at hm
  exact (Option.some.inj hm).symm

theorem minus_notMem_decimal (n : Nat) : '-' ∉ decimal n := by
  intro hmem
  have hdigit : ∀ d < 16, d.digitChar ≠ '-' := by decide
  obtain ⟨d, hd, hminus⟩ := exists_digit_of_mem_toDigits isBase_ten hmem
  exact hdigit d (Nat.lt_of_lt_of_le hd isBase_ten.2) hminus.symm

theorem integer_inj {i j : Int} (h : integer i = integer j) : i = j := by
  have hsign : ∀ m n, decimal m ≠ '-' :: decimal n := by
    intro m n heq
    exact minus_notMem_decimal m (heq ▸ List.mem_cons_self)
  cases i with
  | ofNat m =>
      cases j with
      | ofNat n => rw [decimal_inj h]
      | negSucc n => exact absurd h (hsign m (n + 1))
  | negSucc m =>
      cases j with
      | ofNat n => exact absurd h.symm (hsign n (m + 1))
      | negSucc n => rw [Nat.succ.inj (decimal_inj (List.cons.inj h).2)]

/-- A numeral without a sign is read as its digits are. -/
theorem natBelow?_of_digits {bound n : Nat} {cs : List Char} (hsign : '+' ∉ cs)
    (hdigits : digits? base cs = some n) (hn : n < bound) :
    natBelow? bound base cs = some n := by
  simp only [natBelow?]
  split
  · simp at hsign
  · simp [hdigits, hn]

theorem lt_of_natBelow? {bound n : Nat} {cs : List Char}
    (hread : natBelow? bound base cs = some n) : n < bound := by
  simp only [natBelow?, Option.filter_eq_some_iff, decide_eq_true_eq] at hread
  exact hread.2

theorem plus_notMem_toDigits (hbase : IsBase base) (n : Nat) :
    '+' ∉ Nat.toDigits base n := by
  intro hmem
  obtain ⟨d, hd, hplus⟩ := exists_digit_of_mem_toDigits hbase hmem
  exact digitChar_ne_plus d (Nat.lt_of_lt_of_le hd hbase.2) hplus.symm

theorem natBelow?_toDigits (hbase : IsBase base) {bound n : Nat} (hn : n < bound) :
    natBelow? bound base (Nat.toDigits base n) = some n :=
  natBelow?_of_digits (plus_notMem_toDigits hbase n) (digits?_toDigits hbase n) hn

theorem nat64?_decimal {n : Nat} (hn : n < 2 ^ 64) : nat64? (decimal n) = some n :=
  natBelow?_toDigits isBase_ten hn

theorem natBelow?_hexadecimal {bound n : Nat} (hn : n < bound) :
    natBelow? bound 16 (hexadecimal n) = some n :=
  natBelow?_toDigits isBase_sixteen hn

/-- A byte is written as two digits, the upper one first. -/
theorem hexByte_eq (b : UInt8) :
    hexByte b = [(b.toNat / 16).digitChar, (b.toNat % 16).digitChar] := by
  have hb : b.toNat < 256 := b.toNat_lt
  rw [hexByte, hexadecimal, Nat.toDigits_eq_if (by decide)]
  split
  · next hlow =>
      rw [Nat.div_eq_of_lt hlow, Nat.mod_eq_of_lt hlow]
      rfl
  · next hhigh =>
      rw [Nat.toDigits_of_lt_base (by omega)]
      rfl

theorem digits?_pair {high low : Nat} (hhigh : high < 16) (hlow : low < 16) :
    digits? 16 [high.digitChar, low.digitChar] = some (high * 16 + low) := by
  simp [digits?, digitsFrom?, digitValue?_digitChar isBase_sixteen hhigh,
    digitValue?_digitChar isBase_sixteen hlow]

/-- The digits of a byte have its value. -/
theorem digits?_hexByte (b : UInt8) : digits? 16 (hexByte b) = some b.toNat := by
  have hb : b.toNat < 256 := b.toNat_lt
  rw [hexByte_eq, digits?_pair (by omega) (by omega), Nat.div_add_mod']

theorem plus_notMem_hexByte (b : UInt8) : '+' ∉ hexByte b := by
  have hb : b.toNat < 256 := b.toNat_lt
  rw [hexByte_eq]
  simp [Ne.symm (digitChar_ne_plus (b.toNat / 16) (by omega)),
    Ne.symm (digitChar_ne_plus (b.toNat % 16) (by omega))]

theorem hexBytes_cons (b : UInt8) (rest : Bytes) :
    hexBytes (b :: rest) = hexByte b ++ hexBytes rest := rfl

theorem hexPairs?_hexBytes (content : Bytes) : hexPairs? (hexBytes content) = some content := by
  induction content with
  | nil => rfl
  | cons b rest ih =>
      have hb : b.toNat < 256 := b.toNat_lt
      have hvalue := natBelow?_of_digits (plus_notMem_hexByte b) (digits?_hexByte b) hb
      rw [hexBytes_cons, hexByte_eq] at *
      simp [hexPairs?, hvalue, ih]

theorem hexBytes_inj {front back : Bytes} (h : hexBytes front = hexBytes back) : front = back := by
  have hread := hexPairs?_hexBytes front
  rw [h, hexPairs?_hexBytes back] at hread
  exact (Option.some.inj hread).symm

/-- The characters of bytes are digits. -/
theorem exists_digit_of_mem_hexBytes {content : Bytes} {c : Char} (hc : c ∈ hexBytes content) :
    ∃ d < 16, c = d.digitChar := by
  obtain ⟨b, _, hc⟩ := List.mem_flatMap.1 hc
  have hb : b.toNat < 256 := b.toNat_lt
  rw [hexByte_eq, List.mem_cons, List.mem_singleton] at hc
  rcases hc with hc | hc
  · exact ⟨_, by omega, hc⟩
  · exact ⟨_, by omega, hc⟩

end Counterpart.Text
