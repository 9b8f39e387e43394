/-
Counting key by key.  Over a list of keys without repetitions, such as the categories, no element
is counted twice, and none is missed whose key is on the list.
-/
import Counterpart.Case
import Mathlib.Algebra.BigOperators.Group.List.Basic
import Mathlib.Algebra.GroupWithZero.Nat
import Mathlib.Data.List.Nodup

namespace Counterpart

theorem Category.mem_all (c : Category) : c ∈ all := by
  cases c <;> decide

theorem Category.nodup_all : all.Nodup := by
  decide

variable {α κ : Type} [DecidableEq κ]

/-- A key is met once on a list without repetitions. -/
theorem sum_map_key {keys : List κ} (hnodup : keys.Nodup) {key : κ} (hkey : key ∈ keys) (n : Nat) :
    (keys.map fun k => if key = k then n else 0).sum = n := by
  induction keys with
  | nil => simp at hkey
  | cons k keys ih =>
      obtain ⟨hnew, hnodup⟩ := List.nodup_cons.1 hnodup
      by_cases heq : key = k
      · subst heq
        have hrest : (keys.map fun k => if key = k then n else 0) = keys.map fun _ => 0 := by
          apply List.map_congr_left
          intro k hk
          rw [if_neg]
          rintro rfl
          exact hnew hk
        simp [hrest]
      · rcases List.mem_cons.1 hkey with hhead | hkey
        · exact absurd hhead heq
        · simpa [heq] using ih hnodup hkey

/-- Counting key by key, every element is counted once, if every key is listed once. -/
theorem sum_countP_key {keys : List κ} (hnodup : keys.Nodup) (key : α → κ) (p : α → Bool)
    {xs : List α} (hkeys : ∀ x ∈ xs, key x ∈ keys) :
    (keys.map fun k => (xs.filter (key · == k)).countP p).sum = xs.countP p := by
  induction xs with
  | nil => simp
  | cons x xs ih =>
      have hrest := ih fun y hy => hkeys y (List.mem_cons_of_mem x hy)
      have hfirst := sum_map_key hnodup (hkeys x List.mem_cons_self) (if p x = true then 1 else 0)
      have hsplit : ∀ k, ((x :: xs).filter (key · == k)).countP p =
          (xs.filter (key · == k)).countP p +
            if key x = k then (if p x = true then 1 else 0) else 0 := by
        intro k
        by_cases heq : key x = k
        · rw [List.filter_cons_of_pos (by simpa using heq), List.countP_cons, if_pos heq]
        · rw [List.filter_cons_of_neg (by simpa using heq), if_neg heq, Nat.add_zero]
      simp only [hsplit, List.sum_map_add, hrest, hfirst, List.countP_cons]

end Counterpart
