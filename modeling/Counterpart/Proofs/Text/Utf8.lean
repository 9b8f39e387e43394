/-
Texts as bytes.  Bytes below 0x80 stand for themselves, whatever ill-formed bytes surround
them.  So a line feed ends a line of bytes exactly where it ends the line of their text, and a
mark of such bytes is found in the text only where it is in the bytes.
-/
import Counterpart.Text.Lines
import Counterpart.Text.Utf8

namespace Counterpart.Text

/-- The bytes of a string are those that its characters have one by one. -/
theorem utf8_toList (s : String) : utf8 s.toList = s.toUTF8.data.toList := by
  rw [show s.toUTF8 = s.toByteArray from rfl, ← String.utf8Encode_toList, List.utf8Encode]
  simp [utf8]
  rfl

/-- What a leading byte promises: the second byte is a continuation, and the character is
beyond the first 128. -/
theorem leadingShape_eq_some {b low high : UInt8} {size : Nat}
    (hshape : leadingShape b = some (size, low, high)) :
    (size = 1 ∧ b.toNat < 0x80) ∨
    (0x80 ≤ low.toNat ∧ high.toNat ≤ 0xBF ∧
      ((size = 2 ∧ 2 ≤ b.toNat % 32) ∨
       (size = 3 ∧ (1 ≤ b.toNat % 16 ∨ 0xA0 ≤ low.toNat)) ∨
       (size = 4 ∧ (1 ≤ b.toNat % 8 ∨ 0x90 ≤ low.toNat)))) := by
  have hb : b.toNat < 256 := b.toNat_lt
  unfold leadingShape at hshape
  simp only [UInt8.lt_iff_toNat_lt, ← UInt8.toNat_inj] at hshape
  repeat' split at hshape
  all_goals cases hshape
  all_goals simp at *
  all_goals omega

/-- No character is continued by a byte below 0x80, so it ends in front of one. -/
theorem character_append {b : UInt8} (hb : b.toNat < 0x80) (c : UInt8) (rest back : Bytes) :
    character c (rest ++ b :: back) = character c rest ∧
      (character c rest).2 ≤ rest.length := by
  have hcontinues : isContinuation b = false := by
    simp [isContinuation, UInt8.le_iff_toNat_le]
    omega
  unfold character
  cases hshape : leadingShape c with
  | none => simp
  | some shape =>
      obtain ⟨size, low, high⟩ := shape
      rcases leadingShape_eq_some hshape with ⟨rfl, _⟩ | ⟨hlow, _, hsizes⟩
      · simp
      · have hsize : size ≠ 1 := by omega
        have hbelow : b < low := UInt8.lt_iff_toNat_lt.2 (by omega)
        simp only [hsize, if_false]
        rcases rest with _ | ⟨b₂, _ | ⟨b₃, _ | ⟨b₄, rest⟩⟩⟩
        · simp [hbelow]
        · simp only [List.cons_append, List.nil_append, hcontinues]
          repeat' split
          all_goals simp at *
        · simp only [List.cons_append, List.nil_append, hcontinues]
          repeat' split
          all_goals simp at *
        · simp only [List.cons_append]
          repeat' split
          all_goals simp

/-- Bytes are taken character by character. -/
@[elab_as_elim]
theorem character_induction {motive : Bytes → Prop} (nil : motive [])
    (cons : ∀ b rest, motive (rest.drop (character b rest).2) → motive (b :: rest)) :
    ∀ bytes, motive bytes
  | [] => nil
  | b :: rest => cons b rest (character_induction nil cons _)
  termination_by bytes => bytes.length
  decreasing_by simp only [List.length_cons, List.length_drop]; omega

theorem charactersFrom_cons (done : List (Option Char)) (b : UInt8) (rest : Bytes) :
    charactersFrom done (b :: rest) =
      charactersFrom ((character b rest).1 :: done) (rest.drop (character b rest).2) := by
  rw [charactersFrom]

theorem charactersFrom_eq (done : List (Option Char)) (bytes : Bytes) :
    charactersFrom done bytes = done.reverse ++ characters bytes := by
  induction bytes using character_induction generalizing done with
  | nil => simp [characters, charactersFrom]
  | cons b rest ih =>
      rw [characters, charactersFrom_cons, charactersFrom_cons, ih, ih [_]]
      simp

@[simp] theorem characters_nil : characters [] = [] := by
  rw [characters, charactersFrom, List.reverse_nil]

theorem characters_cons (b : UInt8) (rest : Bytes) :
    characters (b :: rest) =
      (character b rest).1 :: characters (rest.drop (character b rest).2) := by
  rw [characters, charactersFrom_cons, charactersFrom_eq, List.reverse_singleton,
    List.singleton_append]

theorem characters_append {b : UInt8} (hb : b.toNat < 0x80) (front back : Bytes) :
    characters (front ++ b :: back) =
      characters front ++ some (Char.ofNat b.toNat) :: characters back := by
  induction front using character_induction with
  | nil =>
      have hshape : leadingShape b = some (1, 0x80, 0xBF) := by
        simp [leadingShape, UInt8.lt_iff_toNat_lt, hb]
      simp [characters_cons, character, hshape]
  | cons c rest ih =>
      obtain ⟨hsame, hlength⟩ := character_append hb c rest back
      rw [List.cons_append, characters_cons, hsame, List.drop_append_of_le_length hlength, ih,
        characters_cons, List.cons_append]

@[simp] theorem lossy_nil : lossy [] = [] := by
  rw [lossy, characters_nil, List.map_nil]

/-- A byte below 0x80 is one character of the text, whatever stands around it. -/
theorem lossy_append {b : UInt8} (hb : b.toNat < 0x80) (front back : Bytes) :
    lossy (front ++ b :: back) = lossy front ++ Char.ofNat b.toNat :: lossy back := by
  simp [lossy, characters_append hb]

/-- A text of characters below 0x80, none of them zero. -/
def IsAscii (cs : List Char) : Prop :=
  ∀ c ∈ cs, 0 < c.toNat ∧ c.toNat < 0x80

instance (cs : List Char) : Decidable (IsAscii cs) :=
  List.decidableBAll _ cs

theorem encodeChar_of_lt {c : Char} (hc : c.toNat < 0x80) :
    encodeChar c = [UInt8.ofNat c.toNat] := by
  have hle : c.toNat ≤ 0x7F := Nat.le_of_lt_succ hc
  simp [encodeChar, String.utf8EncodeChar, hle]

theorem characters_utf8_append {cs : List Char} (hcs : IsAscii cs) (rest : Bytes) :
    characters (utf8 cs ++ rest) = cs.map some ++ characters rest := by
  induction cs with
  | nil => rfl
  | cons c cs ih =>
      have hc := (hcs c List.mem_cons_self).2
      have hbyte : (UInt8.ofNat c.toNat).toNat = c.toNat := by
        simp
        omega
      have htail := ih fun c hc => hcs c (List.mem_cons_of_mem _ hc)
      have happend := characters_append (b := UInt8.ofNat c.toNat) (by omega) [] (utf8 cs ++ rest)
      rw [hbyte, Char.ofNat_toNat, htail] at happend
      have hutf8 : utf8 (c :: cs) ++ rest = UInt8.ofNat c.toNat :: (utf8 cs ++ rest) := by
        simp [utf8, encodeChar_of_lt hc]
      rw [hutf8]
      simpa using happend

theorem lossy_utf8_append {cs : List Char} (hcs : IsAscii cs) (rest : Bytes) :
    lossy (utf8 cs ++ rest) = cs ++ lossy rest := by
  have hread : (cs.map some).map (·.getD replacement) = cs := by
    rw [List.map_map]
    exact List.map_id cs
  rw [lossy, characters_utf8_append hcs, List.map_append, hread, lossy]

theorem utf8?_utf8 {cs : List Char} (hcs : IsAscii cs) : utf8? (utf8 cs) = some cs := by
  have hcharacters := characters_utf8_append hcs []
  rw [List.append_nil, characters_nil, List.append_nil] at hcharacters
  have hall := List.mapM_pure (m := Option) (l := cs) (f := id)
  rw [List.map_id] at hall
  rw [utf8?, hcharacters, List.mapM_map]
  exact hall

theorem toNat_ofNat (n : Nat) : (Char.ofNat n).toNat = n ∨ (Char.ofNat n).toNat = 0 := by
  by_cases hvalid : n.isValidChar
  · rw [Char.ofNat, dif_pos hvalid]
    exact Or.inl rfl
  · rw [Char.ofNat, dif_neg hvalid]
    exact Or.inr rfl

/-- A byte below 0x80 is a character of its own, and every longer one is beyond them. -/
theorem character_cases (b : UInt8) (rest : Bytes) :
    (character b rest).1 = none ∨
    (b.toNat < 0x80 ∧ character b rest = (some (Char.ofNat b.toNat), 0)) ∨
    ∃ n, 0x80 ≤ n ∧ (character b rest).1 = some (Char.ofNat n) := by
  unfold character
  cases hshape : leadingShape b with
  | none => exact Or.inl rfl
  | some shape =>
      obtain ⟨size, low, high⟩ := shape
      rcases leadingShape_eq_some hshape with ⟨rfl, hb⟩ | ⟨hlow, hhigh, hsizes⟩
      · exact Or.inr (Or.inl ⟨hb, rfl⟩)
      · have hsize : size ≠ 1 := by omega
        simp only [hsize, if_false]
        rcases rest with _ | ⟨b₂, rest⟩
        · exact Or.inl rfl
        · by_cases hrange : b₂ < low ∨ high < b₂
          · simp [hrange]
          · have hsecond : low.toNat ≤ b₂.toNat ∧ b₂.toNat ≤ high.toNat := by
              simp only [UInt8.lt_iff_toNat_lt] at hrange
              omega
            simp only [hrange, if_false]
            repeat' split
            any_goals exact Or.inl rfl
            all_goals
              refine Or.inr (Or.inr ⟨_, ?_, rfl⟩)
              simp only [pushSix]
              omega

/-- Only a byte below 0x80 is read as a character below 0x80. -/
theorem character_of_lt {b : UInt8} {rest : Bytes} {c : Char}
    (hcharacter : (character b rest).1.getD replacement = c) (hpos : 0 < c.toNat)
    (hc : c.toNat < 0x80) : c.toNat = b.toNat ∧ (character b rest).2 = 0 := by
  rcases character_cases b rest with hnone | ⟨hb, hone⟩ | ⟨n, hn, hlong⟩
  · have hreplacement : replacement.toNat = 0xFFFD := rfl
    rw [hnone, Option.getD_none] at hcharacter
    subst hcharacter
    omega
  · have hvalue := toNat_ofNat b.toNat
    rw [hone, Option.getD_some] at hcharacter
    subst hcharacter
    exact ⟨by omega, by rw [hone]⟩
  · have hvalue := toNat_ofNat n
    rw [hlong, Option.getD_some] at hcharacter
    subst hcharacter
    omega

theorem lossy_cons (b : UInt8) (rest : Bytes) :
    lossy (b :: rest) =
      (character b rest).1.getD replacement :: lossy (rest.drop (character b rest).2) := by
  simp [lossy, characters_cons]

theorem mem_of_mem_lossy {c : Char} (hpos : 0 < c.toNat) (hc : c.toNat < 0x80) {bs : Bytes}
    (hmem : c ∈ lossy bs) : UInt8.ofNat c.toNat ∈ bs := by
  induction bs using character_induction with
  | nil => simp at hmem
  | cons b rest ih =>
      rw [lossy_cons, List.mem_cons] at hmem
      rcases hmem with hfirst | hlater
      · have hb := (character_of_lt hfirst.symm hpos hc).1
        simp [hb]
      · exact List.mem_cons_of_mem _ (List.mem_of_mem_drop (ih hlater))

/-- A mark of characters below 0x80 that opens the text opens the bytes too. -/
theorem utf8_prefix_of_lossy {front tail : List Char} (hfront : IsAscii front) {bs : Bytes}
    (hlossy : lossy bs = front ++ tail) : utf8 front <+: bs := by
  induction front generalizing bs with
  | nil => exact List.nil_prefix
  | cons c front ih =>
      obtain ⟨hpos, hc⟩ := hfront c List.mem_cons_self
      cases bs with
      | nil => simp at hlossy
      | cons b bs =>
          rw [lossy_cons, List.cons_append, List.cons.injEq] at hlossy
          obtain ⟨hb, hskip⟩ := character_of_lt hlossy.1 hpos hc
          have htail := ih (fun c hc => hfront c (List.mem_cons_of_mem _ hc))
            (by simpa [hskip] using hlossy.2)
          have hutf8 : utf8 (c :: front) = b :: utf8 front := by
            simp [utf8, encodeChar_of_lt hc, hb]
          rw [hutf8, List.prefix_cons_inj]
          exact htail

end Counterpart.Text
