/-
Replacing a text in another one.  The places where it stands part the text into segments, in none
of which it stands, and replacing it puts the new text between them.  A mark that opens with a
character found nowhere else in it is found again exactly where it was put.
-/
import Counterpart.Proofs.Text.Occurrence

namespace Counterpart.Text

section Equations

variable {α : Type} [DecidableEq α] {old new : List α}

theorem replace_nil (old new : List α) : replace old new [] = [] := by
  cases old with
  | nil => rfl
  | cons f front => rw [replace, replaceFrom]

/-- An occurrence at the front is replaced. -/
theorem replace_append (hold : old ≠ []) (rest : List α) :
    replace old new (old ++ rest) = new ++ replace old new rest := by
  cases old with
  | nil => exact absurd rfl hold
  | cons f front =>
      rw [replace, List.cons_append, replaceFrom, if_pos rfl]
      split
      · next found hfound =>
          rw [dropFront?_append] at hfound
          cases hfound
          rfl
      · next hfound =>
          rw [dropFront?_append] at hfound
          cases hfound

/-- Where no occurrence begins a character stays. -/
theorem replace_cons {c : α} {cs : List α} (hfront : ¬ old <+: c :: cs) :
    replace old new (c :: cs) = c :: replace old new cs := by
  cases old with
  | nil => rfl
  | cons f front =>
      rw [replace, replaceFrom]
      split
      · next hfirst =>
          subst hfirst
          have hnone : dropFront? front cs = none := by
            apply dropFront?_eq_none
            rwa [List.cons_prefix_cons, and_iff_right rfl] at hfront
          split
          · next hfound =>
              rw [hnone] at hfound
              cases hfound
          · rfl
      · rfl

/-- A text in which nothing is to be replaced stays as it is. -/
theorem replace_eq_self {text : List α} (hnone : ¬ old <:+: text) :
    replace old new text = text := by
  induction text with
  | nil => exact replace_nil old new
  | cons c cs ih =>
      rw [List.infix_cons_iff, not_or] at hnone
      rw [replace_cons hnone.1, ih hnone.2]

end Equations

section Segments

variable {old mark new : List Char}

theorem join_cons_cons (mark first next : List Char) (segments : List (List Char)) :
    join mark (first :: next :: segments) = first ++ (mark ++ join mark (next :: segments)) :=
  List.append_assoc first mark _

/-- A character in front of the first segment stands in front of the text. -/
theorem join_head_cons (mark : List Char) (c : Char) (segment : List Char)
    (segments : List (List Char)) :
    join mark ((c :: segment) :: segments) = c :: join mark (segment :: segments) := by
  cases segments with
  | nil => rfl
  | cons next segments => rfl

theorem prefix_join (mark segment : List Char) (segments : List (List Char)) :
    segment <+: join mark (segment :: segments) := by
  cases segments with
  | nil => exact List.prefix_rfl
  | cons next segments =>
      rw [join_cons_cons]
      exact List.prefix_append _ _

/-- Every segment stands in the text. -/
theorem infix_join {segment : List Char} {segments : List (List Char)}
    (hsegment : segment ∈ segments) (mark : List Char) : segment <:+: join mark segments := by
  induction segments with
  | nil => cases hsegment
  | cons first segments ih =>
      rcases List.mem_cons.1 hsegment with rfl | hlater
      · exact (prefix_join mark segment segments).isInfix
      · cases segments with
        | nil => cases hlater
        | cons next segments => exact (ih hlater).trans (List.suffix_append _ _).isInfix

/-- The places where a text stands part the other one into segments, between which any text can
be put. -/
theorem exists_segments (hold : old ≠ []) (text : List Char) :
    ∃ first segments, text = join old (first :: segments) ∧
      (∀ new, replace old new text = join new (first :: segments)) ∧
      ∀ segment ∈ first :: segments, ¬ old <:+: segment := by
  induction hlength : text.length using Nat.strongRecOn generalizing text with
  | ind n ih =>
      by_cases hfront : old <+: text
      · obtain ⟨rest, rfl⟩ := hfront
        have hshorter : rest.length < n := by
          rw [← hlength, List.length_append]
          exact Nat.lt_add_of_pos_left (List.length_pos_of_ne_nil hold)
        obtain ⟨first, segments, hrest, hreplace, hnone⟩ := ih _ hshorter rest rfl
        refine ⟨[], first :: segments, ?_, ?_, ?_⟩
        · rw [hrest]
          rfl
        · intro new
          rw [replace_append hold, hreplace]
          rfl
        · rw [List.forall_mem_cons]
          exact ⟨fun hstands => hold (List.infix_nil.1 hstands), hnone⟩
      · cases text with
        | nil =>
            refine ⟨[], [], rfl, fun new => replace_nil old new, ?_⟩
            rw [List.forall_mem_singleton, List.infix_nil]
            exact hold
        | cons c cs =>
            have hshorter : cs.length < n := by
              rw [← hlength]
              exact Nat.lt_succ_self _
            obtain ⟨first, segments, hrest, hreplace, hnone⟩ := ih _ hshorter cs rfl
            rw [List.forall_mem_cons] at hnone
            refine ⟨c :: first, segments, ?_, ?_, ?_⟩
            · rw [join_head_cons, ← hrest]
            · intro new
              rw [replace_cons hfront, hreplace, join_head_cons]
            · rw [List.forall_mem_cons, List.infix_cons_iff, not_or]
              refine ⟨⟨fun hbegins => hfront (hbegins.trans ?_), hnone.1⟩, hnone.2⟩
              rw [hrest, ← join_head_cons]
              exact prefix_join old _ _

/-- A text that has neither end of a mark stands in a joined text only if it stands in a segment
or inside the mark. -/
theorem not_infix_join {opening closing : Char} {inner text : List Char}
    (hopening : opening ∉ text) (hclosing : closing ∉ text) (hinner : ¬ text <:+: inner)
    {segments : List (List Char)} (hsegments : ∀ segment ∈ segments, ¬ text <:+: segment) :
    ¬ text <:+: join (opening :: inner ++ [closing]) segments := by
  have hne : text ≠ [] := by
    rintro rfl
    exact hinner List.nil_infix
  induction segments with
  | nil =>
      rw [join, List.infix_nil]
      exact hne
  | cons segment segments ih =>
      rw [List.forall_mem_cons] at hsegments
      cases segments with
      | nil => exact hsegments.1
      | cons next segments =>
          rw [join_cons_cons, List.cons_append, List.cons_append, List.append_assoc,
            List.singleton_append, infix_append_cons_iff hopening hne,
            infix_append_cons_iff hclosing hne, not_or, not_or]
          exact ⟨hsegments.1, hinner, ih hsegments.2⟩

/-- A mark behind a segment without it is replaced, and nothing in front of it. -/
theorem replace_append_mark {opening : Char} {inner : List Char} (hinner : opening ∉ inner)
    {segment : List Char} (hsegment : ¬ opening :: inner <:+: segment) (rest : List Char) :
    replace (opening :: inner) new (segment ++ (opening :: inner ++ rest)) =
      segment ++ (new ++ replace (opening :: inner) new rest) := by
  induction segment with
  | nil => exact replace_append (List.cons_ne_nil _ _) rest
  | cons c segment ih =>
      rw [List.infix_cons_iff, not_or, List.cons_prefix_cons] at hsegment
      have hfront : ¬ opening :: inner <+: c :: (segment ++ (opening :: inner ++ rest)) := by
        rw [List.cons_prefix_cons, List.cons_append, prefix_append_cons_iff hinner]
        exact hsegment.1
      rw [List.cons_append, replace_cons hfront, ih hsegment.2, List.cons_append]

/-- Marks between segments without them are replaced one by one. -/
theorem replace_join {opening : Char} {inner : List Char} (hinner : opening ∉ inner)
    {segments : List (List Char)}
    (hsegments : ∀ segment ∈ segments, ¬ opening :: inner <:+: segment) :
    replace (opening :: inner) new (join (opening :: inner) segments) = join new segments := by
  induction segments with
  | nil => exact replace_nil _ _
  | cons segment segments ih =>
      rw [List.forall_mem_cons] at hsegments
      cases segments with
      | nil => exact replace_eq_self hsegments.1
      | cons next segments =>
          rw [join_cons_cons, replace_append_mark hinner hsegments.1, ih hsegments.2,
            join_cons_cons]

end Segments

end Counterpart.Text
