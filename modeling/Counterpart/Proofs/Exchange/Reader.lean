/-
How a driver reads its arguments: words and pairs of digits, with the white space in front
of each skipped.  Every reader undoes the text written for it, whatever follows the text,
and leaves at most white space of it unread.
-/
import Counterpart.Exchange.Encode
import Counterpart.Proofs.Text.Numeral

namespace Counterpart.Exchange

open Text

/-- The characters that are skipped in front of a conversion. -/
def isSpace (c : Char) : Bool :=
  c == ' ' || (0x09 ≤ c.toNat && c.toNat ≤ 0x0D)

def isHexDigit (c : Char) : Bool :=
  (digitValue? 16 c).isSome

/-- A word is the longest run of digits behind white space. -/
def readWord? (cs : List Char) : Option (Nat × List Char) :=
  let cs := cs.dropWhile isSpace
  (digits? 16 (cs.takeWhile isHexDigit)).map fun n => (n, cs.dropWhile isHexDigit)

/-- A byte is exactly two digits behind white space. -/
def readByte? (cs : List Char) : Option (UInt8 × List Char) :=
  match cs.dropWhile isSpace with
  | high :: low :: rest => (digits? 16 [high, low]).map fun n => (UInt8.ofNat n, rest)
  | _ => none

def readWords? : Nat → List Char → Option (List Nat × List Char)
  | 0, cs => some ([], cs)
  | count + 1, cs => do
      let (word, rest) ← readWord? cs
      let (words, rest) ← readWords? count rest
      some (word :: words, rest)

def readBytes? : Nat → List Char → Option (Bytes × List Char)
  | 0, cs => some ([], cs)
  | count + 1, cs => do
      let (byte, rest) ← readByte? cs
      let (bytes, rest) ← readBytes? count rest
      some (byte :: bytes, rest)

/-- What a driver holds for one parameter. -/
inductive Received where
  | scalar (bits : Nat)
  | aggregate (fields : List Nat)
  | null
  /-- The bytes behind a pointer. -/
  | block (content : Bytes)
  deriving DecidableEq, Repr

/-- A pointer is one word, and unless the word is zero a length and that many bytes. -/
def readBlock? (cs : List Char) : Option (Received × List Char) := do
  let (present, rest) ← readWord? cs
  if present = 0 then some (.null, rest)
  else do
    let (length, rest) ← readWord? rest
    let (content, rest) ← readBytes? length rest
    some (.block content, rest)

/-- A scalar is one word and a structure one for each field. -/
def readArgument? (ty : ValueType) (cs : List Char) : Option (Received × List Char) :=
  match ty with
  | .scalar _ => (readWord? cs).map fun (word, rest) => (.scalar word, rest)
  | .aggregate fields =>
      (readWords? fields.length cs).map fun (words, rest) => (.aggregate words, rest)
  | .buffer _ _ _ | .cstring _ | .bytes _ _ => readBlock? cs

/-- The arguments of all parameters, in the order in which they are declared. -/
def readArguments? : List Param → List Char → Option (List Received × List Char)
  | [], cs => some ([], cs)
  | p :: ps, cs => do
      let (first, rest) ← readArgument? p.ty cs
      let (others, rest) ← readArguments? ps rest
      some (first :: others, rest)

/-- Nothing but white space. -/
def IsGap (cs : List Char) : Prop :=
  ∀ c ∈ cs, isSpace c = true

theorem isGap_nil : IsGap [] := by simp [IsGap]

theorem isGap_space : IsGap [' '] := by simp [IsGap, isSpace]

theorem isGap_newline : IsGap ['\n'] := by simp [IsGap, isSpace]

theorem IsGap.append {front back : List Char} (hfront : IsGap front) (hback : IsGap back) :
    IsGap (front ++ back) := by
  intro c hc
  rcases List.mem_append.1 hc with hc | hc
  · exact hfront c hc
  · exact hback c hc

/-- White space in front is skipped. -/
theorem IsGap.dropWhile {gap : List Char} (hgap : IsGap gap) (cs : List Char) :
    (gap ++ cs).dropWhile isSpace = cs.dropWhile isSpace :=
  List.dropWhile_append_of_pos hgap

theorem isHexDigit_digitChar : ∀ d < 16, isHexDigit d.digitChar = true := by decide

theorem isSpace_digitChar : ∀ d < 16, isSpace d.digitChar = false := by decide

theorem isHexDigit_of_mem_hexadecimal {n : Nat} {c : Char} (hc : c ∈ hexadecimal n) :
    isHexDigit c = true := by
  obtain ⟨d, hd, rfl⟩ := exists_digit_of_mem_toDigits isBase_sixteen hc
  exact isHexDigit_digitChar d hd

theorem dropWhile_isSpace_hexadecimal (n : Nat) (rest : List Char) :
    (hexadecimal n ++ rest).dropWhile isSpace = hexadecimal n ++ rest := by
  cases hdigits : hexadecimal n with
  | nil => exact absurd hdigits Nat.toDigits_ne_nil
  | cons c cs =>
      have hc : c ∈ hexadecimal n := by simp [hdigits]
      obtain ⟨d, hd, rfl⟩ := exists_digit_of_mem_toDigits isBase_sixteen hc
      simp [isSpace_digitChar d hd]

/-- A word ends at the first character that is no digit. -/
theorem readWord?_hexadecimal {gap : List Char} (hgap : IsGap gap) (n : Nat) {stop : Char}
    (hstop : isHexDigit stop = false) (rest : List Char) :
    readWord? (gap ++ (hexadecimal n ++ stop :: rest)) = some (n, stop :: rest) := by
  have hall : ∀ c ∈ hexadecimal n, isHexDigit c = true :=
    fun c hc => isHexDigit_of_mem_hexadecimal hc
  have hdigits : digits? 16 (hexadecimal n) = some n := digits?_toDigits isBase_sixteen n
  simp only [readWord?]
  rw [hgap.dropWhile, dropWhile_isSpace_hexadecimal, List.takeWhile_append_of_pos hall,
    List.dropWhile_append_of_pos hall]
  simp [hstop, hdigits]

theorem readByte?_hexByte {gap : List Char} (hgap : IsGap gap) (b : UInt8)
    (rest : List Char) : readByte? (gap ++ (hexByte b ++ rest)) = some (b, rest) := by
  have hb : b.toNat < 256 := b.toNat_lt
  have hvalue := digits?_hexByte b
  have hfirst := isSpace_digitChar (b.toNat / 16) (by omega)
  rw [hexByte_eq] at hvalue ⊢
  rw [readByte?, hgap.dropWhile]
  simp [hfirst, hvalue]

theorem readBytes?_hexBytes {gap : List Char} (hgap : IsGap gap) (content : Bytes)
    (rest : List Char) :
    ∃ left, IsGap left ∧
      readBytes? content.length (gap ++ (hexBytes content ++ rest)) =
        some (content, left ++ rest) := by
  induction content generalizing gap with
  | nil => exact ⟨gap, hgap, rfl⟩
  | cons b content ih =>
      obtain ⟨left, hleft, hrest⟩ := ih isGap_nil
      refine ⟨left, hleft, ?_⟩
      rw [hexBytes_cons, List.append_assoc, List.length_cons, readBytes?,
        readByte?_hexByte hgap]
      rw [List.nil_append] at hrest
      simp [hrest]

theorem readBlock?_blockText {gap : List Char} (hgap : IsGap gap) (content : Bytes)
    (rest : List Char) :
    ∃ left, IsGap left ∧
      readBlock? (gap ++ (blockText content ++ rest)) = some (.block content, left ++ rest) := by
  obtain ⟨left, hleft, hbytes⟩ := readBytes?_hexBytes isGap_space content ('\n' :: rest)
  have hpresent := readWord?_hexadecimal hgap 1 (show isHexDigit ' ' = false by decide)
    (hexadecimal content.length ++ ' ' :: (hexBytes content ++ '\n' :: rest))
  have hlength := readWord?_hexadecimal isGap_space content.length
    (show isHexDigit ' ' = false by decide) (hexBytes content ++ '\n' :: rest)
  have htext : blockText content ++ rest = hexadecimal 1 ++ ' ' ::
      (hexadecimal content.length ++ ' ' :: (hexBytes content ++ '\n' :: rest)) := by
    simp [blockText]
    rfl
  refine ⟨left ++ ['\n'], hleft.append isGap_newline, ?_⟩
  rw [htext, readBlock?, hpresent]
  simp only [List.singleton_append] at hlength hbytes
  simp [hlength, hbytes]

theorem readBlock?_null {gap : List Char} (hgap : IsGap gap) (rest : List Char) :
    readBlock? (gap ++ (['0', '\n'] ++ rest)) = some (.null, '\n' :: rest) := by
  have hpresent := readWord?_hexadecimal hgap 0 (show isHexDigit '\n' = false by decide) rest
  have htext : ['0', '\n'] ++ rest = hexadecimal 0 ++ '\n' :: rest := rfl
  rw [htext, readBlock?, hpresent]
  rfl

end Counterpart.Exchange
