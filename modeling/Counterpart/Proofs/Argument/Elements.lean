/-
Values read back from memory.  The bytes of a value, the low one first, come to its pattern
again, so the elements of a buffer are those that were written into it.
-/
import Counterpart.Proofs.Argument.Conforming
import Mathlib.Data.Nat.Digits.Defs

namespace Counterpart

namespace ScalarValue

theorem toNat_byteAt (bits : Word) (i : Nat) :
    (byteAt bits i).toNat = bits.toNat / 2 ^ (8 * i) % 2 ^ 8 := by
  rw [← Nat.shiftRight_eq_div_pow]
  exact BitVec.extractLsb'_toNat _ _ _

/-- A byte in front of bytes that leave room for it in the word. -/
theorem toNat_wordOfBytes_cons {b : UInt8} {rest : Bytes}
    (hrest : (wordOfBytes rest).toNat < 2 ^ 56) :
    (wordOfBytes (b :: rest)).toNat = b.toNat + 2 ^ 8 * (wordOfBytes rest).toNat := by
  have hbyte : (b.toBitVec.setWidth 64).toNat = b.toNat := by
    rw [BitVec.toNat_setWidth]
    exact Nat.mod_eq_of_lt (Nat.lt_trans b.toNat_lt (by decide))
  have hshift : (wordOfBytes rest <<< 8).toNat = (wordOfBytes rest).toNat <<< 8 := by
    rw [BitVec.toNat_shiftLeft, Nat.shiftLeft_eq]
    exact Nat.mod_eq_of_lt (by omega)
  rw [wordOfBytes, BitVec.toNat_or, hbyte, hshift, ← Nat.shiftLeft_add_eq_or_of_lt b.toNat_lt,
    Nat.shiftLeft_eq, Nat.mul_comm, Nat.add_comm]

/-- The bytes from position `i` on are the digits of what is left of the word there. -/
theorem toNat_wordOfBytes_map_byteAt (bits : Word) {i n : Nat} (hn : n ≤ 8) :
    (wordOfBytes ((List.range' i n).map (byteAt bits))).toNat =
      bits.toNat / 2 ^ (8 * i) % 2 ^ (8 * n) := by
  induction n generalizing i with
  | zero => rw [Nat.mul_zero, Nat.pow_zero, Nat.mod_one]; rfl
  | succ n ih =>
      have hrest := @ih (i + 1) (by omega)
      have hroom : (wordOfBytes ((List.range' (i + 1) n).map (byteAt bits))).toNat < 2 ^ 56 := by
        have hpow : 2 ^ (8 * n) ≤ 2 ^ 56 := Nat.pow_le_pow_right (by decide) (by omega)
        rw [hrest]
        exact Nat.lt_of_lt_of_le (Nat.mod_lt _ (Nat.two_pow_pos _)) hpow
      rw [List.range'_succ, List.map_cons, toNat_wordOfBytes_cons hroom, hrest, toNat_byteAt,
        Nat.mul_succ, Nat.pow_add, ← Nat.div_div_eq_div_mul, Nat.mul_succ, Nat.add_comm (8 * n) 8,
        Nat.pow_add 2 8, Nat.mod_mul]

theorem toNat_lt_of_isOf {ty : ScalarType} {v : ScalarValue} (hv : v.IsOf ty) :
    v.bits.toNat < 2 ^ (8 * ty.size) := by
  obtain ⟨rfl, hfits⟩ := hv
  have hbits := toNat_bits_ofBits_lt v.ty v.bits
  rwa [ofBits, hfits] at hbits

theorem wordOfBytes_toBytes {ty : ScalarType} {v : ScalarValue} (hv : v.IsOf ty) :
    wordOfBytes v.toBytes = v.bits := by
  apply BitVec.eq_of_toNat_eq
  rw [toBytes, List.range_eq_range', toNat_wordOfBytes_map_byteAt v.bits v.ty.size_le, hv.1,
    Nat.mul_zero, Nat.pow_zero, Nat.div_one]
  exact Nat.mod_eq_of_lt (toNat_lt_of_isOf hv)

theorem ofBits_of_isOf {ty : ScalarType} {v : ScalarValue} (hv : v.IsOf ty) :
    ofBits ty v.bits = v := by
  obtain ⟨rfl, _⟩ := id hv
  exact ofBits_of_lt (toNat_lt_of_isOf hv)

/-- As many bytes as the type has are read as they are. -/
theorem ofBytes?_of_length {ty : ScalarType} {bytes : Bytes} (hlength : bytes.length = ty.size) :
    ofBytes? ty bytes = some (ofBits ty (wordOfBytes bytes)) := by
  have hwhole : bytes.length ≤ 8 := hlength ▸ ty.size_le
  unfold ofBytes?
  split
  · rfl
  · rfl
  · rfl
  · next hone htwo hfour =>
      have hsize : ty.size = 1 ∨ ty.size = 2 ∨ ty.size = 4 ∨ ty.size = 8 := by
        cases ty with
        | int width signed => cases width <;> simp [ScalarType.size, Width.bytes]
        | f32 => simp [ScalarType.size]
        | f64 => simp [ScalarType.size]
      have height : bytes.length = 8 := by
        rcases hsize with hsize | hsize | hsize | hsize
        · exact (hone (hlength.trans hsize)).elim
        · exact (htwo (hlength.trans hsize)).elim
        · exact (hfour (hlength.trans hsize)).elim
        · exact hlength.trans hsize
      have hlong : ¬ bytes.length < 8 := Nat.not_lt.2 (Nat.le_of_eq height.symm)
      rw [if_neg hlong, List.take_of_length_le hwhole]

/-- A value is read back from its bytes. -/
theorem ofBytes?_toBytes {ty : ScalarType} {v : ScalarValue} (hv : v.IsOf ty) :
    ofBytes? ty v.toBytes = some v := by
  have hlength : v.toBytes.length = ty.size := by rw [length_toBytes, hv.1]
  rw [ofBytes?_of_length hlength, wordOfBytes_toBytes hv, ofBits_of_isOf hv]

theorem lt_of_mem_map_toNat {bytes : Bytes} : ∀ digit ∈ bytes.map (·.toNat), digit < 256 := by
  intro digit hdigit
  obtain ⟨b, _, rfl⟩ := List.mem_map.1 hdigit
  exact b.toNat_lt

/-- Bytes are the digits of their word, the low one first. -/
theorem toNat_wordOfBytes {bytes : Bytes} (hlength : bytes.length ≤ 8) :
    (wordOfBytes bytes).toNat = Nat.ofDigits 256 (bytes.map (·.toNat)) := by
  induction bytes with
  | nil => rfl
  | cons b rest ih =>
      rw [List.length_cons] at hlength
      have hrest := ih (by omega)
      have hroom : (wordOfBytes rest).toNat < 2 ^ 56 := by
        calc (wordOfBytes rest).toNat
            = Nat.ofDigits 256 (rest.map (·.toNat)) := hrest
          _ < 256 ^ (rest.map (·.toNat)).length :=
              Nat.ofDigits_lt_base_pow_length (by decide) lt_of_mem_map_toNat
          _ = 256 ^ rest.length := by rw [List.length_map]
          _ ≤ 256 ^ 7 := Nat.pow_le_pow_right (by decide) (by omega)
      rw [toNat_wordOfBytes_cons hroom, hrest, List.map_cons, Nat.ofDigits_cons]

theorem toNat_wordOfBytes_lt {bytes : Bytes} (hlength : bytes.length ≤ 8) :
    (wordOfBytes bytes).toNat < 2 ^ (8 * bytes.length) := by
  have hdigits := Nat.ofDigits_lt_base_pow_length (by decide) (@lt_of_mem_map_toNat bytes)
  rwa [← toNat_wordOfBytes hlength, List.length_map, show 256 = 2 ^ 8 by rfl, ← Nat.pow_mul]
    at hdigits

/-- Bytes of one number are told apart by their word. -/
theorem wordOfBytes_inj {front back : Bytes} (hlength : front.length = back.length)
    (hle : front.length ≤ 8) (hword : wordOfBytes front = wordOfBytes back) : front = back := by
  have hnumber := congrArg BitVec.toNat hword
  rw [toNat_wordOfBytes hle, toNat_wordOfBytes (hlength ▸ hle)] at hnumber
  have hlengths : (front.map (·.toNat)).length = (back.map (·.toNat)).length := by
    rw [List.length_map, List.length_map, hlength]
  have hdigits := Nat.ofDigits_inj_of_len_eq (by decide) hlengths lt_of_mem_map_toNat
    lt_of_mem_map_toNat hnumber
  exact (List.map_inj_right fun _ _ => UInt8.toNat_inj.1).1 hdigits

/-- Bytes read as a value are its bytes in memory. -/
theorem toBytes_ofBits_wordOfBytes {ty : ScalarType} {bytes : Bytes}
    (hlength : bytes.length = ty.size) : (ofBits ty (wordOfBytes bytes)).toBytes = bytes := by
  have hle : bytes.length ≤ 8 := hlength ▸ ty.size_le
  have hkept : (ofBits ty (wordOfBytes bytes)).bits = wordOfBytes bytes := by
    apply BitVec.eq_of_toNat_eq
    rw [toNat_bits_ofBits, ← hlength, Nat.mod_eq_of_lt (toNat_wordOfBytes_lt hle)]
  have hlengths : (ofBits ty (wordOfBytes bytes)).toBytes.length = bytes.length :=
    (length_toBytes _).trans hlength.symm
  apply wordOfBytes_inj hlengths (hlengths ▸ hle)
  rw [wordOfBytes_toBytes (isOf_ofBits ty _), hkept]

end ScalarValue

namespace ArgValue

/-- Parts of one size are found again in what they are put together to. -/
theorem chunks_flatMap {α : Type} {size : Nat} (hpos : 0 < size) {f : α → Bytes} {xs : List α}
    (hsize : ∀ x ∈ xs, (f x).length = size) : chunks size (xs.flatMap f) = xs.map f := by
  induction xs with
  | nil => rw [List.flatMap_nil, chunks, if_neg (by simp), List.map_nil]
  | cons x xs ih =>
      have hfirst := hsize x List.mem_cons_self
      have hrest := ih fun y hy => hsize y (List.mem_cons_of_mem x hy)
      have hmore : f x ++ xs.flatMap f ≠ [] := by
        intro hnil
        have hempty := (List.append_eq_nil_iff.1 hnil).1
        rw [hempty, List.length_nil] at hfirst
        omega
      rw [List.flatMap_cons, chunks, if_pos ⟨hpos, hmore⟩, ← hfirst, List.take_left, List.drop_left,
        hfirst, hrest, List.map_cons]

/-- The elements of a buffer are the values whose bytes it holds. -/
theorem elements?_flatMap_toBytes {elem : ScalarType} {values : List ScalarValue}
    (hvalues : ∀ v ∈ values, v.IsOf elem) :
    elements? elem (values.flatMap (·.toBytes)) = some values := by
  have hsize : ∀ v ∈ values, v.toBytes.length = elem.size := by
    intro v hv
    rw [ScalarValue.length_toBytes, (hvalues v hv).1]
  rw [elements?, chunks_flatMap elem.size_pos hsize]
  clear hsize
  induction values with
  | nil => rfl
  | cons v vs ih =>
      have hfirst := ScalarValue.ofBytes?_toBytes (hvalues v List.mem_cons_self)
      have hrest := ih fun w hw => hvalues w (List.mem_cons_of_mem v hw)
      rw [List.map_cons, List.mapM_cons, hfirst, hrest]
      rfl

theorem flatten_chunks {size : Nat} (hpos : 0 < size) (content : Bytes) :
    (chunks size content).flatten = content := by
  induction content using chunks.induct size with
  | case1 content hmore ih =>
      rw [chunks, if_pos hmore, List.flatten_cons, ih, List.take_append_drop]
  | case2 content hend =>
      have hnil : content = [] := by
        by_contra hne
        exact hend ⟨hpos, hne⟩
      rw [chunks, if_neg hend, hnil, List.flatten_nil]

/-- The elements of whole bytes are values of the type, and the bytes are theirs. -/
theorem eq_flatMap_toBytes {elem : ScalarType} {content : Bytes} {values : List ScalarValue}
    (hwhole : elem.size ∣ content.length) (hvalues : elements? elem content = some values) :
    content = values.flatMap (·.toBytes) ∧ ∀ v ∈ values, v.IsOf elem := by
  have hsize := length_of_mem_chunks hwhole
  rw [← flatten_chunks elem.size_pos content]
  unfold elements? at hvalues
  generalize chunks elem.size content = parts at hsize hvalues
  induction parts generalizing values with
  | nil =>
      obtain rfl : [] = values := Option.some.inj hvalues
      exact ⟨rfl, fun _ hv => absurd hv List.not_mem_nil⟩
  | cons chunk parts ih =>
      obtain ⟨hchunk, hparts⟩ := List.forall_mem_cons.1 hsize
      rw [List.mapM_cons, ScalarValue.ofBytes?_of_length hchunk] at hvalues
      obtain ⟨v, hv, hvalues⟩ := Option.bind_eq_some_iff.1 hvalues
      obtain ⟨rest, hrest, hcons⟩ := Option.bind_eq_some_iff.1 hvalues
      obtain rfl := Option.some.inj hv
      obtain rfl := Option.some.inj hcons
      obtain ⟨hbytes, hof⟩ := ih hparts hrest
      rw [List.flatten_cons, List.flatMap_cons, ScalarValue.toBytes_ofBits_wordOfBytes hchunk,
        ← hbytes]
      exact ⟨rfl, List.forall_mem_cons.2 ⟨ScalarValue.isOf_ofBits elem _, hof⟩⟩

end ArgValue

end Counterpart
