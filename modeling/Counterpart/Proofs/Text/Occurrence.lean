/-
Where a mark stands in a text.  A reader is tried at every place of the text, and characters with
which no reading starts add nothing to what is found.
-/
import Counterpart.Proofs.Text.Words
import Mathlib.Data.List.Infix

namespace Counterpart.Text

variable {α β : Type} {read? : List Char → Option α}

/-- What a reader gives at the places of a text where it gives something. -/
def found (read? : List Char → Option α) (text : List Char) : List α :=
  text.tails.filterMap read?

theorem found_nil (hread : read? [] = none) : found read? [] = [] := by
  simp [found, hread]

theorem found_cons (c : Char) (rest : List Char) :
    found read? (c :: rest) = (read? (c :: rest)).toList ++ found read? rest := by
  rw [found, List.tails_cons, List.filterMap_cons]
  cases read? (c :: rest) <;> rfl

theorem found_cons_of_none {c : Char} {rest : List Char} (hread : read? (c :: rest) = none) :
    found read? (c :: rest) = found read? rest := by
  rw [found_cons, hread]
  rfl

/-- A text at whose places nothing is read, whatever follows it. -/
def Silent (read? : List Char → Option α) (front : List Char) : Prop :=
  ∀ rest, found read? (front ++ rest) = found read? rest

theorem silent_of_forall {front : List Char}
    (hnone : ∀ c ∈ front, ∀ rest, read? (c :: rest) = none) : Silent read? front := by
  intro rest
  induction front with
  | nil => rfl
  | cons c front ih =>
      rw [List.cons_append, found_cons_of_none (hnone c List.mem_cons_self _)]
      exact ih fun d hd => hnone d (List.mem_cons_of_mem c hd)

theorem dropFront?_cons_of_ne {f c : Char} (hne : f ≠ c) (front rest : List Char) :
    dropFront? (f :: front) (c :: rest) = none :=
  if_neg hne

/-- A mark is not found where its first character does not occur. -/
theorem silent_of_notMem {f : Char} {front : List Char} (hfront : f ∉ front) (mark : List Char) :
    Silent (dropFront? (f :: mark)) front := by
  apply silent_of_forall
  intro c hc rest
  exact dropFront?_cons_of_ne (ne_of_mem_of_not_mem hc hfront).symm mark rest

theorem found_eq_nil_of_notMem {f : Char} {text : List Char} (htext : f ∉ text)
    (mark : List Char) : found (dropFront? (f :: mark)) text = [] := by
  have hsilent := silent_of_notMem htext mark []
  rwa [List.append_nil, found_nil rfl] at hsilent

/-- A mark stands in a text if something is found behind it. -/
theorem infix_iff_found {mark text : List Char} :
    mark <:+: text ↔ ∃ rest, rest ∈ found (dropFront? mark) text := by
  simp only [found, List.mem_filterMap, List.mem_tails, List.infix_iff_prefix_suffix]
  constructor
  · rintro ⟨back, ⟨rest, rfl⟩, hback⟩
    exact ⟨rest, mark ++ rest, hback, dropFront?_append mark rest⟩
  · rintro ⟨rest, back, hback, hrest⟩
    exact ⟨back, ⟨rest, (dropFront?_eq_some hrest).symm⟩, hback⟩

/-- A prefix does not reach over a character that it does not have. -/
theorem prefix_append_cons_iff {stop : Char} {mark : List Char} (hstop : stop ∉ mark)
    {front rest : List Char} : mark <+: front ++ stop :: rest ↔ mark <+: front := by
  induction mark generalizing front with
  | nil => simp
  | cons m mark ih =>
      simp only [List.mem_cons, not_or] at hstop
      cases front with
      | nil => simp [List.cons_prefix_cons, Ne.symm hstop.1]
      | cons c front =>
          rw [List.cons_append, List.cons_prefix_cons, List.cons_prefix_cons, ih hstop.2]

/-- A mark without line feeds stands in one of two texts between which there is one. -/
theorem infix_append_cons_iff {stop : Char} {mark : List Char} (hstop : stop ∉ mark)
    (hmark : mark ≠ []) {front rest : List Char} :
    mark <:+: front ++ stop :: rest ↔ mark <:+: front ∨ mark <:+: rest := by
  induction front with
  | nil =>
      have hnot : ¬ mark <+: stop :: rest := by
        rw [← List.nil_append (stop :: rest), prefix_append_cons_iff hstop, List.prefix_nil]
        exact hmark
      rw [List.nil_append, List.infix_cons_iff, List.infix_nil]
      simp [hnot, hmark]
  | cons c front ih =>
      rw [List.cons_append, List.infix_cons_iff, List.infix_cons_iff, ih, ← List.cons_append,
        prefix_append_cons_iff hstop, or_assoc]

/-- What stands in front of the first stop is settled by any longer text. -/
theorem eq_of_append_cons_prefix {stop : Char} {front front' rest rest' : List Char}
    (hfront : stop ∉ front) (hfront' : stop ∉ front')
    (hbegins : front ++ stop :: rest <+: front' ++ stop :: rest') : front = front' := by
  induction front generalizing front' with
  | nil =>
      cases front' with
      | nil => rfl
      | cons c front' =>
          rw [List.nil_append, List.cons_append, List.cons_prefix_cons] at hbegins
          exact absurd (hbegins.1 ▸ List.mem_cons_self) hfront'
  | cons c front ih =>
      cases front' with
      | nil =>
          rw [List.nil_append, List.cons_append, List.cons_prefix_cons] at hbegins
          exact absurd (hbegins.1 ▸ List.mem_cons_self) hfront
      | cons d front' =>
          rw [List.cons_append, List.cons_append, List.cons_prefix_cons] at hbegins
          obtain ⟨rfl, hrest⟩ := hbegins
          simp only [List.mem_cons, not_or] at hfront hfront'
          rw [ih hfront.2 hfront'.2 hrest]

theorem eq_of_append_cons {stop : Char} {front front' rest rest' : List Char}
    (hfront : stop ∉ front) (hfront' : stop ∉ front')
    (heq : front ++ stop :: rest = front' ++ stop :: rest') : front = front' ∧ rest = rest' := by
  have hbegins : front ++ stop :: rest <+: front' ++ stop :: rest' := by rw [heq]
  obtain rfl := eq_of_append_cons_prefix hfront hfront' hbegins
  exact ⟨rfl, (List.cons.inj (List.append_cancel_left heq)).2⟩

theorem dropFront?_eq_some_iff [DecidableEq β] {front cs rest : List β} :
    dropFront? front cs = some rest ↔ cs = front ++ rest :=
  ⟨dropFront?_eq_some, fun h => h ▸ dropFront?_append front rest⟩

section Between

variable [DecidableEq β]

/-- The elements behind the first occurrence of one and in front of the next of another. -/
def between (first last : β) (xs : List β) : List β :=
  ((xs.dropWhile (· ≠ first)).tail).takeWhile (· ≠ last)

theorem between_append {first last : β} {front middle : List β} (hfront : first ∉ front)
    (hmiddle : last ∉ middle) (back : List β) :
    between first last (front ++ first :: (middle ++ last :: back)) = middle := by
  have hdrop : ∀ x ∈ front, decide (x ≠ first) = true :=
    fun x hx => decide_eq_true (ne_of_mem_of_not_mem hx hfront)
  have htake : ∀ x ∈ middle, decide (x ≠ last) = true :=
    fun x hx => decide_eq_true (ne_of_mem_of_not_mem hx hmiddle)
  rw [between, List.dropWhile_append_of_pos hdrop, List.dropWhile_cons_of_neg (by simp),
    List.tail_cons, List.takeWhile_append_of_pos htake, List.takeWhile_cons_of_neg (by simp),
    List.append_nil]

end Between

end Counterpart.Text
