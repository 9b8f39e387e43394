/-
Lists related element by element, and elements found by keys that no two of them share.
-/
import Mathlib.Data.List.Forall2

namespace Counterpart

variable {α β γ : Type} {R : α → β → Prop}

theorem exists_forall₂ {xs : List α} (hall : ∀ x ∈ xs, ∃ y, R x y) :
    ∃ ys, List.Forall₂ R xs ys := by
  induction xs with
  | nil => exact ⟨[], .nil⟩
  | cons x xs ih =>
      obtain ⟨y, hy⟩ := hall x List.mem_cons_self
      obtain ⟨ys, hys⟩ := ih fun x hx => hall x (List.mem_cons_of_mem _ hx)
      exact ⟨y :: ys, .cons hy hys⟩

/-- Related elements that agree on something agree on it as lists. -/
theorem map_eq_of_forall₂ {δ : Type} {f : α → δ} {g : β → δ} {xs : List α} {ys : List β}
    (hall : List.Forall₂ R xs ys) (hsame : ∀ x y, R x y → g y = f x) : ys.map g = xs.map f := by
  induction hall with
  | nil => rfl
  | cons hfirst _ ih => rw [List.map_cons, List.map_cons, hsame _ _ hfirst, ih]

theorem exists_mem_of_forall₂ {xs : List α} {ys : List β} (hall : List.Forall₂ R xs ys) {y : β}
    (hy : y ∈ ys) : ∃ x ∈ xs, R x y := by
  induction hall with
  | nil => simp at hy
  | cons hfirst _ ih =>
      rcases List.mem_cons.1 hy with rfl | hy
      · exact ⟨_, List.mem_cons_self, hfirst⟩
      · obtain ⟨x, hx, hxy⟩ := ih hy
        exact ⟨x, List.mem_cons_of_mem _ hx, hxy⟩

theorem exists_getElem?_of_forall₂ {xs : List α} {ys : List β} (hall : List.Forall₂ R xs ys)
    {i : Nat} {x : α} (hx : xs[i]? = some x) : ∃ y, ys[i]? = some y ∧ R x y := by
  induction hall generalizing i with
  | nil => simp at hx
  | cons hfirst _ ih =>
      cases i with
      | zero =>
          cases hx
          exact ⟨_, rfl, hfirst⟩
      | succ i => exact ih hx

/-- The second parts of pairs may be forgotten. -/
theorem forall₂_of_zip {R : α × β → γ → Prop} {xs : List α} {ys : List β} {zs : List γ}
    (hlength : xs.length = ys.length) (hall : List.Forall₂ R (xs.zip ys) zs) :
    List.Forall₂ (fun x z => ∃ y, R (x, y) z) xs zs := by
  induction xs generalizing ys zs with
  | nil =>
      cases hall
      exact .nil
  | cons x xs ih =>
      cases ys with
      | nil => cases hlength
      | cons y ys =>
          cases hall with
          | cons hfirst hrest => exact .cons ⟨y, hfirst⟩ (ih (Nat.succ.inj hlength) hrest)

theorem find?_of_nodup_map [DecidableEq β] {key : α → β} {xs : List α}
    (hnodup : (xs.map key).Nodup) {x : α} (hx : x ∈ xs) : xs.find? (key · == key x) = some x := by
  obtain ⟨front, back, rfl⟩ := List.append_of_mem hx
  have hfront : front.find? (key · == key x) = none := by
    rw [List.find?_eq_none]
    intro y hy hkey
    rw [List.map_append, List.map_cons] at hnodup
    have hdisjoint := (List.nodup_append.1 hnodup).2.2
    exact hdisjoint (key y) (List.mem_map_of_mem hy) (key x) List.mem_cons_self (beq_iff_eq.1 hkey)
  rw [List.find?_append, hfront, Option.none_or, List.find?_cons_of_pos (by simp)]

end Counterpart
