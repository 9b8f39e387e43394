/-
Texts that trimming leaves alone, and texts without blanks.
-/
import Counterpart.Proofs.Text.Words

namespace Counterpart.Text

theorem dropWhile_isBlank {cs : List Char} (hfirst : ∀ c ∈ cs.head?, isBlank c = false) :
    cs.dropWhile isBlank = cs := by
  cases cs with
  | nil => rfl
  | cons c cs =>
      have hc : ¬ isBlank c = true := by
        rw [hfirst c rfl]
        exact Bool.false_ne_true
      rw [List.dropWhile_cons, if_neg hc]

/-- A text with no blank at either end. -/
theorem trim_eq_self {cs : List Char} (hfirst : ∀ c ∈ cs.head?, isBlank c = false)
    (hlast : ∀ c ∈ cs.getLast?, isBlank c = false) : trim cs = cs := by
  rw [← List.head?_reverse] at hlast
  rw [trim, trimStart, dropWhile_isBlank hfirst, trimEnd, dropWhile_isBlank hlast,
    List.reverse_reverse]

theorem trim_of_isWord {cs : List Char} (hword : IsWord cs) : trim cs = cs := by
  refine trim_eq_self ?_ ?_
  · intro c hc
    exact hword c (List.mem_of_head? hc)
  · intro c hc
    exact hword c (List.mem_of_getLast? hc)

/-- A text that ends in a word and does not open with a blank. -/
theorem trim_append_of_isWord {front word : List Char} (hword : IsWord word) (hne : word ≠ [])
    (hfirst : ∀ c ∈ (front ++ word).head?, isBlank c = false) :
    trim (front ++ word) = front ++ word := by
  refine trim_eq_self hfirst ?_
  intro c hc
  rw [List.getLast?_append, List.getLast?_eq_some_getLast hne, Option.some_or] at hc
  exact hword c (Option.mem_some_iff.1 hc ▸ List.getLast_mem hne)

theorem isWord_nil : IsWord [] :=
  fun _ hc => absurd hc List.not_mem_nil

theorem isWord_append {front back : List Char} (hfront : IsWord front) (hback : IsWord back) :
    IsWord (front ++ back) := by
  intro c hc
  rcases List.mem_append.1 hc with hc | hc
  · exact hfront c hc
  · exact hback c hc

theorem isWord_cons {c : Char} {cs : List Char} (hc : isBlank c = false) (hcs : IsWord cs) :
    IsWord (c :: cs) := by
  intro d hd
  rcases List.mem_cons.1 hd with rfl | hd
  · exact hc
  · exact hcs d hd

theorem isWord_concat {cs : List Char} {c : Char} (hcs : IsWord cs) (hc : isBlank c = false) :
    IsWord (cs ++ [c]) :=
  isWord_append hcs (isWord_cons hc isWord_nil)

/-- The last piece has no mark behind it. -/
theorem pieces_of_notMem {mark : Char} {cs : List Char} (hmark : mark ∉ cs) :
    pieces mark cs = [cs] := by
  induction cs with
  | nil => rfl
  | cons c cs ih =>
      rw [List.mem_cons, not_or] at hmark
      rw [pieces_cons, if_neg (Ne.symm hmark.1), ih hmark.2, List.modifyHead_cons]

end Counterpart.Text
