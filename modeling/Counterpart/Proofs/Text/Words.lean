/-
Cutting a text into lines and words.  A piece ends at its mark, and a word ends at a blank.
-/
import Counterpart.Text.Lines

namespace Counterpart.Text

/-- What is closed stays in front, and what is read of a piece opens the next one. -/
theorem piecesFrom_eq (mark : Char) (closed : List (List Char)) (piece cs : List Char) :
    piecesFrom mark closed piece cs =
      closed.reverse ++ (pieces mark cs).modifyHead (piece.reverse ++ ·) := by
  induction cs generalizing closed piece with
  | nil => simp [piecesFrom, pieces]
  | cons c cs ih =>
      rw [pieces, piecesFrom, piecesFrom]
      split
      · rw [ih, ih [[].reverse]]
        simp
      · rw [ih, ih []]
        simp [Function.comp_def]

@[simp] theorem pieces_nil (mark : Char) : pieces mark [] = [[]] :=
  rfl

theorem pieces_cons (mark c : Char) (cs : List Char) :
    pieces mark (c :: cs) =
      if c = mark then [] :: pieces mark cs else (pieces mark cs).modifyHead (c :: ·) := by
  rw [pieces, piecesFrom, piecesFrom_eq, piecesFrom_eq]
  split
  · exact congrArg ([] :: ·) (congrFun List.modifyHead_id _)
  · simp

theorem pieces_append {mark : Char} {front : List Char} (hfront : mark ∉ front)
    (back : List Char) : pieces mark (front ++ mark :: back) = front :: pieces mark back := by
  induction front with
  | nil => simp [pieces_cons]
  | cons c front ih =>
      simp only [List.mem_cons, not_or] at hfront
      simp [pieces_cons, Ne.symm hfront.1, ih hfront.2]

theorem pieces_ne_nil (mark : Char) (cs : List Char) : pieces mark cs ≠ [] := by
  induction cs with
  | nil => simp
  | cons c cs ih =>
      rw [pieces_cons]
      split
      · simp
      · simpa using ih

/-- A mark always parts the pieces in front of it from those behind it. -/
theorem pieces_mark (mark : Char) (front back : List Char) :
    pieces mark (front ++ mark :: back) = pieces mark front ++ pieces mark back := by
  induction front with
  | nil => simp [pieces_cons]
  | cons c front ih =>
      obtain ⟨piece, rest, hfront⟩ := List.exists_cons_of_ne_nil (pieces_ne_nil mark front)
      by_cases hc : c = mark
      · simp [pieces_cons, hc, ih]
      · simp [pieces_cons, hc, ih, hfront]

/-- A text without blanks. -/
def IsWord (cs : List Char) : Prop :=
  ∀ c ∈ cs, isBlank c = false

instance decidableIsWord (cs : List Char) : Decidable (IsWord cs) :=
  List.decidableBAll _ cs

theorem foldr_consWord {word : List Char} (hword : IsWord word) (done : List (List Char)) :
    word.foldr consWord ([], done) = (word, done) := by
  induction word with
  | nil => rfl
  | cons c word ih =>
      have hc := hword c List.mem_cons_self
      have hrest : IsWord word := fun c hc => hword c (List.mem_cons_of_mem _ hc)
      simp [ih hrest, consWord, hc]

/-- The word in front of a space, if there is one. -/
theorem words_append {word : List Char} (hword : IsWord word) (rest : List Char) :
    words (word ++ ' ' :: rest) = [word].filter (· ≠ []) ++ words rest := by
  have hblank : consWord ' ' (rest.foldr consWord ([], [])) = ([], words rest) := by
    simp only [words]
    generalize rest.foldr consWord ([], []) = pair
    obtain ⟨current, done⟩ := pair
    simp [consWord, isBlank]
  have hfold : (word ++ ' ' :: rest).foldr consWord ([], []) = (word, words rest) := by
    rw [List.foldr_append, List.foldr_cons, hblank, foldr_consWord hword]
  rw [words, hfold]
  by_cases hne : word = []
  · simp [hne]
  · simp [hne]

theorem words_of_isWord {word : List Char} (hword : IsWord word) :
    words word = [word].filter (· ≠ []) := by
  rw [words, foldr_consWord hword]
  by_cases hne : word = []
  · simp [hne]
  · simp [hne]

/-- Fields with a space between each two are read back, but for the empty ones. -/
theorem words_join {fields : List (List Char)} (hfields : ∀ field ∈ fields, IsWord field) :
    words (join [' '] fields) = fields.filter (· ≠ []) := by
  induction fields with
  | nil => rfl
  | cons field fields ih =>
      have hfield := hfields field List.mem_cons_self
      have hrest := ih fun field hfield => hfields field (List.mem_cons_of_mem _ hfield)
      cases fields with
      | nil => exact words_of_isWord hfield
      | cons next fields =>
          rw [join, List.append_assoc, List.singleton_append, words_append hfield, hrest,
            ← List.filter_append, List.singleton_append]
          simp

theorem mem_join {mark : Char} {fields : List (List Char)} {c : Char}
    (hc : c ∈ join [mark] fields) : c = mark ∨ ∃ field ∈ fields, c ∈ field := by
  induction fields with
  | nil => simp [join] at hc
  | cons field fields ih =>
      cases fields with
      | nil => exact Or.inr ⟨field, List.mem_cons_self, hc⟩
      | cons next fields =>
          simp only [join, List.mem_append, List.mem_singleton] at hc
          rcases hc with (hfirst | hmark) | hlater
          · exact Or.inr ⟨field, List.mem_cons_self, hfirst⟩
          · exact Or.inl hmark
          · rcases ih hlater with hmark | ⟨other, hother, hmem⟩
            · exact Or.inl hmark
            · exact Or.inr ⟨other, List.mem_cons_of_mem _ hother, hmem⟩

section

variable {α : Type} [DecidableEq α]

theorem dropFront?_append (front rest : List α) :
    dropFront? front (front ++ rest) = some rest := by
  induction front with
  | nil => rfl
  | cons f front ih => simpa [dropFront?] using ih

theorem dropFront?_eq_none {front cs : List α} (hfront : ¬ front <+: cs) :
    dropFront? front cs = none := by
  rcases hfound : dropFront? front cs with _ | rest
  · rfl
  · exact absurd ⟨rest, (dropFront?_eq_some hfound).symm⟩ hfront

theorem dropBack?_append (back rest : List α) : dropBack? back (rest ++ back) = some rest := by
  rw [dropBack?, List.reverse_append, dropFront?_append, Option.map_some, List.reverse_reverse]

theorem dropBack?_eq_some {back cs rest : List α} (hback : dropBack? back cs = some rest) :
    cs = rest ++ back := by
  obtain ⟨found, hfound, rfl⟩ := Option.map_eq_some_iff.1 hback
  have hreverse := congrArg List.reverse (dropFront?_eq_some hfound)
  rwa [List.reverse_reverse, List.reverse_append, List.reverse_reverse] at hreverse

theorem dropBack?_eq_none {back cs : List α} (hback : ¬ back <:+ cs) :
    dropBack? back cs = none := by
  rw [← List.reverse_prefix] at hback
  rw [dropBack?, dropFront?_eq_none hback, Option.map_none]

end

section

variable {p : Char → Bool} {front rest : List Char}

theorem takeWhile_eq_of_head? (hfront : ∀ c ∈ front, p c = true)
    (hrest : ∀ c ∈ rest.head?, p c = false) : (front ++ rest).takeWhile p = front := by
  rw [List.takeWhile_append_of_pos hfront]
  cases rest with
  | nil => simp
  | cons c rest => simp [hrest c rfl]

theorem dropWhile_eq_of_head? (hfront : ∀ c ∈ front, p c = true)
    (hrest : ∀ c ∈ rest.head?, p c = false) : (front ++ rest).dropWhile p = rest := by
  rw [List.dropWhile_append_of_pos hfront]
  cases rest with
  | nil => simp
  | cons c rest => simp [hrest c rfl]

/-- Two texts cut at the first character without a property agree in both parts. -/
theorem eq_of_append_eq {front' rest' : List Char} (hfront : ∀ c ∈ front, p c = true)
    (hfront' : ∀ c ∈ front', p c = true) (hrest : ∀ c ∈ rest.head?, p c = false)
    (hrest' : ∀ c ∈ rest'.head?, p c = false) (heq : front ++ rest = front' ++ rest') :
    front = front' ∧ rest = rest' := by
  have htake := congrArg (List.takeWhile p) heq
  have hdrop := congrArg (List.dropWhile p) heq
  rw [takeWhile_eq_of_head? hfront hrest, takeWhile_eq_of_head? hfront' hrest'] at htake
  rw [dropWhile_eq_of_head? hfront hrest, dropWhile_eq_of_head? hfront' hrest'] at hdrop
  exact ⟨htake, hdrop⟩

theorem head?_dropWhile (p : Char → Bool) (cs : List Char) :
    ∀ c ∈ (cs.dropWhile p).head?, p c = false := by
  intro c hc
  have hall := List.head?_dropWhile_not p cs
  rw [hc] at hall
  simpa using hall

end

end Counterpart.Text
