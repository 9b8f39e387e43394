/-
Texts with blanks around them, and texts with marks between their parts.  Trimming takes off the
blanks at both ends and nothing else, and cutting at a mark undoes putting it between parts.
-/
import Counterpart.Proofs.Text.Blank

namespace Counterpart.Text

/-- A text of blanks. -/
def Blank (cs : List Char) : Prop :=
  ∀ c ∈ cs, isBlank c = true

/-- A part with blanks around it. -/
def Padded (part cs : List Char) : Prop :=
  ∃ front back, Blank front ∧ Blank back ∧ cs = front ++ part ++ back

/-- A part with blanks behind it. -/
def Trailed (part cs : List Char) : Prop :=
  ∃ back, Blank back ∧ cs = part ++ back

/-- There is no blank at either end. -/
structure Tight (cs : List Char) : Prop where
  first : ∀ c ∈ cs.head?, isBlank c = false
  last : ∀ c ∈ cs.getLast?, isBlank c = false

section Blank

variable {cs part : List Char}

theorem blank_nil : Blank [] :=
  fun _ hc => absurd hc List.not_mem_nil

theorem Blank.padded {front : List Char} (hfront : Blank front) (part : List Char) :
    Padded part (front ++ part) :=
  ⟨front, [], hfront, blank_nil, (List.append_nil _).symm⟩

theorem Padded.refl (part : List Char) : Padded part part :=
  blank_nil.padded part

theorem Trailed.padded (htrailed : Trailed part cs) : Padded part cs := by
  obtain ⟨back, hback, rfl⟩ := htrailed
  exact ⟨[], back, blank_nil, hback, rfl⟩

theorem Trailed.ne_nil (htrailed : Trailed part cs) (hne : part ≠ []) : cs ≠ [] := by
  obtain ⟨back, _, rfl⟩ := htrailed
  exact List.append_ne_nil_of_left_ne_nil hne back

theorem Trailed.head?_eq (htrailed : Trailed part cs) (hne : part ≠ []) :
    cs.head? = part.head? := by
  obtain ⟨back, _, rfl⟩ := htrailed
  cases part with
  | nil => exact absurd rfl hne
  | cons c part => rfl

theorem Blank.notMem (hblank : Blank cs) {c : Char} (hc : isBlank c = false) : c ∉ cs := by
  intro hmem
  rw [hblank c hmem] at hc
  cases hc

theorem Padded.mem_iff (hpadded : Padded part cs) {c : Char} (hc : isBlank c = false) :
    c ∈ cs ↔ c ∈ part := by
  obtain ⟨front, back, hfront, hback, rfl⟩ := hpadded
  simp [hfront.notMem hc, hback.notMem hc]

theorem Padded.count_eq (hpadded : Padded part cs) {c : Char} (hc : isBlank c = false) :
    cs.count c = part.count c := by
  obtain ⟨front, back, hfront, hback, rfl⟩ := hpadded
  simp [List.count_eq_zero_of_not_mem (hfront.notMem hc),
    List.count_eq_zero_of_not_mem (hback.notMem hc)]

/-- A padded part at the front of a text that does not open with a blank. -/
theorem Padded.trailed (hpadded : Padded part cs) {rest : List Char}
    (hfirst : ∀ c ∈ (cs ++ rest).head?, isBlank c = false) : Trailed part cs := by
  obtain ⟨front, back, hfront, hback, rfl⟩ := hpadded
  cases front with
  | nil => exact ⟨back, hback, rfl⟩
  | cons c front =>
      have hblank := hfront c List.mem_cons_self
      rw [hfirst c rfl] at hblank
      cases hblank

/-- A padded part at the end of a text that does not end with a blank. -/
theorem Padded.exists_leading (hpadded : Padded part cs) {rest : List Char}
    (hlast : ∀ c ∈ (rest ++ cs).getLast?, isBlank c = false) :
    ∃ front, Blank front ∧ cs = front ++ part := by
  obtain ⟨front, back, hfront, hback, rfl⟩ := hpadded
  rcases List.eq_nil_or_concat back with rfl | ⟨back, c, rfl⟩
  · exact ⟨front, hfront, List.append_nil _⟩
  · have hblank := hback c (by simp)
    rw [hlast c (by simp [← List.append_assoc])] at hblank
    cases hblank

theorem Tight.of_isWord (hword : IsWord cs) : Tight cs :=
  ⟨fun c hc => hword c (List.mem_of_head? hc), fun c hc => hword c (List.mem_of_getLast? hc)⟩

theorem Tight.concat {c : Char} (hfirst : ∀ d ∈ cs.head?, isBlank d = false)
    (hc : isBlank c = false) : Tight (cs ++ [c]) where
  first := by
    cases cs with
    | nil => simpa using hc
    | cons d cs => exact hfirst
  last := by simpa using hc

theorem Tight.trim_eq (htight : Tight cs) : trim cs = cs :=
  trim_eq_self htight.first htight.last

theorem trimStart_eq_nil_iff : trimStart cs = [] ↔ Blank cs := by
  constructor
  · intro hnone
    have hall := List.takeWhile_append_dropWhile (p := isBlank) (l := cs)
    rw [← trimStart, hnone, List.append_nil] at hall
    exact hall ▸ List.all_eq_true.1 List.all_takeWhile
  · intro hblank
    have hall : (cs ++ []).dropWhile isBlank = [].dropWhile isBlank :=
      List.dropWhile_append_of_pos hblank
    rwa [List.append_nil] at hall

theorem trailed_trimEnd (cs : List Char) : Trailed (trimEnd cs) cs := by
  have hall := List.takeWhile_append_dropWhile (p := isBlank) (l := cs.reverse)
  refine ⟨(cs.reverse.takeWhile isBlank).reverse, ?_, ?_⟩
  · intro c hc
    exact List.all_eq_true.1 List.all_takeWhile c (List.mem_reverse.1 hc)
  · rw [trimEnd, ← List.reverse_append, hall, List.reverse_reverse]

theorem trimEnd_append (hblank : Blank cs) : trimEnd (part ++ cs) = trimEnd part := by
  have hreverse : ∀ c ∈ cs.reverse, isBlank c = true :=
    fun c hc => hblank c (List.mem_reverse.1 hc)
  rw [trimEnd, List.reverse_append, List.dropWhile_append_of_pos hreverse, trimEnd]

/-- Blanks around a text make no difference to what trimming leaves. -/
theorem Padded.trim_eq (hpadded : Padded part cs) : trim cs = trim part := by
  obtain ⟨front, back, hfront, hback, rfl⟩ := hpadded
  rw [trim, trimStart, List.append_assoc, List.dropWhile_append_of_pos hfront,
    List.dropWhile_append, ← trimStart, ← trimStart]
  by_cases hblank : Blank part
  · rw [trimStart_eq_nil_iff.2 hblank, trimStart_eq_nil_iff.2 hback, trim,
      trimStart_eq_nil_iff.2 hblank]
    rfl
  · have hsome : (trimStart part).isEmpty = false := by
      rwa [List.isEmpty_eq_false_iff, Ne, trimStart_eq_nil_iff]
    rw [hsome, if_neg Bool.false_ne_true, trimEnd_append hback, trim]

theorem padded_trim (cs : List Char) : Padded (trim cs) cs := by
  obtain ⟨back, hback, hstart⟩ := trailed_trimEnd (trimStart cs)
  refine ⟨cs.takeWhile isBlank, back, List.all_eq_true.1 List.all_takeWhile, hback, ?_⟩
  rw [List.append_assoc, trim, ← hstart]
  exact List.takeWhile_append_dropWhile.symm

theorem tight_trim (cs : List Char) : Tight (trim cs) where
  first := by
    intro c hc
    obtain ⟨back, _, hstart⟩ := trailed_trimEnd (trimStart cs)
    have hfirst : c ∈ (trimStart cs).head? := by
      rw [hstart, ← trim, List.head?_append, hc]
      rfl
    exact head?_dropWhile isBlank cs c hfirst
  last := by
    intro c hc
    rw [trim, trimEnd, List.getLast?_reverse] at hc
    exact head?_dropWhile isBlank _ c hc

theorem trim_eq_nil_iff : trim cs = [] ↔ Blank cs := by
  constructor
  · intro hnone
    obtain ⟨front, back, hfront, hback, hcs⟩ := padded_trim cs
    rw [hnone, List.append_nil] at hcs
    intro c hc
    rw [hcs] at hc
    rcases List.mem_append.1 hc with hc | hc
    · exact hfront c hc
    · exact hback c hc
  · intro hblank
    have hpadded : Padded [] cs := ⟨cs, [], hblank, blank_nil, by simp⟩
    exact hpadded.trim_eq

end Blank

section Pieces

variable {mark : Char}

/-- A text is cut at the first mark in it. -/
theorem takeWhile_append_mark {cs : List Char} (hmark : mark ∈ cs) :
    cs.takeWhile (· ≠ mark) ++ mark :: (cs.dropWhile (· ≠ mark)).drop 1 = cs := by
  induction cs with
  | nil => cases hmark
  | cons c cs ih =>
      by_cases hc : c = mark
      · simp [hc]
      · have hrest : mark ∈ cs := (List.mem_cons.1 hmark).resolve_left (Ne.symm hc)
        simpa [hc] using ih hrest

theorem join_cons_of_ne_nil {part : List Char} {parts : List (List Char)} (hne : parts ≠ []) :
    join [mark] (part :: parts) = part ++ mark :: join [mark] parts := by
  cases parts with
  | nil => exact absurd rfl hne
  | cons next parts =>
      rw [join, List.append_assoc, List.singleton_append]
      exact List.cons_ne_nil next parts

/-- Parts without the mark come back when the text is cut at the marks between them. -/
theorem pieces_join {parts : List (List Char)} (hne : parts ≠ [])
    (hparts : ∀ part ∈ parts, mark ∉ part) : pieces mark (join [mark] parts) = parts := by
  induction parts with
  | nil => exact absurd rfl hne
  | cons part parts ih =>
      obtain ⟨hpart, hrest⟩ := List.forall_mem_cons.1 hparts
      cases parts with
      | nil => exact pieces_of_notMem hpart
      | cons next parts =>
          rw [join_cons_of_ne_nil (List.cons_ne_nil _ _), pieces_append hpart,
            ih (List.cons_ne_nil _ _) hrest]

/-- The pieces with the marks between them are the text. -/
theorem join_pieces (mark : Char) (cs : List Char) : join [mark] (pieces mark cs) = cs := by
  induction cs with
  | nil => rfl
  | cons c cs ih =>
      rw [pieces_cons]
      split
      · next hc =>
        rw [join_cons_of_ne_nil (pieces_ne_nil mark cs), ih, hc, List.nil_append]
      · obtain ⟨piece, rest, hpieces⟩ := List.exists_cons_of_ne_nil (pieces_ne_nil mark cs)
        rw [hpieces] at ih ⊢
        rw [← ih]
        cases rest with
        | nil => rfl
        | cons next rest => rfl

/-- There is one mark less than there are parts. -/
theorem count_join {parts : List (List Char)} (hne : parts ≠ [])
    (hparts : ∀ part ∈ parts, mark ∉ part) : (join [mark] parts).count mark + 1 = parts.length := by
  induction parts with
  | nil => exact absurd rfl hne
  | cons part parts ih =>
      obtain ⟨hpart, hrest⟩ := List.forall_mem_cons.1 hparts
      cases parts with
      | nil => rw [join, List.count_eq_zero_of_not_mem hpart, List.length_singleton]
      | cons next parts =>
          rw [join_cons_of_ne_nil (List.cons_ne_nil _ _), List.count_append,
            List.count_eq_zero_of_not_mem hpart, List.count_cons_self, Nat.zero_add,
            ih (List.cons_ne_nil _ _) hrest]
          rfl

end Pieces

end Counterpart.Text
