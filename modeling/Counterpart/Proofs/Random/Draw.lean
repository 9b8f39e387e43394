/-
What holds of a draw whatever the stream.  A draw by rejection lies below its bound even
when patience ends, so every number drawn lies between its ends.
-/
import Counterpart.Random.Draw
import Mathlib.Data.List.Forall2

namespace Counterpart.Draw

variable {α β : Type}

/-- The result has a property, whatever the stream. -/
structure Always (P : α → Prop) (d : Draw α) : Prop where
  result : ∀ s : Stream, P (d.run s).1

namespace Always

theorem pure {P : α → Prop} {a : α} (ha : P a) : Always P (Pure.pure a) :=
  ⟨fun _ => ha⟩

theorem bind {P : α → Prop} {Q : β → Prop} {d : Draw α} {f : α → Draw β}
    (hd : Always P d) (hf : ∀ a, P a → Always Q (f a)) : Always Q (d >>= f) :=
  ⟨fun s => (hf _ (hd.result s)).result _⟩

theorem mono {P Q : α → Prop} {d : Draw α} (hd : Always P d) (hPQ : ∀ a, P a → Q a) :
    Always Q d :=
  ⟨fun s => hPQ _ (hd.result s)⟩

/-- What is drawn first need not be known. -/
theorem after {Q : β → Prop} {d : Draw α} {f : α → Draw β} (hf : ∀ a, Always Q (f a)) :
    Always Q (d >>= f) :=
  ⟨fun _ => (hf _).result _⟩

theorem mapM {R : α → β → Prop} {f : α → Draw β} {xs : List α} (hf : ∀ x, Always (R x) (f x)) :
    Always (List.Forall₂ R xs) (xs.mapM f) := by
  induction xs with
  | nil => exact pure .nil
  | cons x xs ih =>
      rw [List.mapM_cons]
      apply (hf x).bind
      intro y hy
      apply ih.bind
      intro ys hys
      exact pure (.cons hy hys)

end Always

theorem always_word32 : Always (· < 2 ^ 32) word32 :=
  ⟨fun s => s.next.1.toNat_lt⟩

theorem always_word64 : Always (· < 2 ^ 64) word64 := by
  unfold word64
  apply always_word32.bind
  intro low hlow
  apply always_word32.bind
  intro high hhigh
  apply Always.pure
  omega

theorem always_belowZone {draw : Draw Nat} {width : Nat} (hdraw : Always (· < 2 ^ width) draw)
    (zone : Nat) {bound : Nat} (hbound : 0 < bound) (fuel : Nat) :
    Always (· < bound) (belowZone draw width zone bound fuel) := by
  induction fuel with
  | zero => exact Always.pure hbound
  | succ fuel ih =>
      rw [belowZone]
      apply hdraw.bind
      intro n hn
      dsimp only
      split
      · apply Always.pure
        have hproduct : n * bound < 2 ^ width * bound := Nat.mul_lt_mul_of_pos_right hn hbound
        exact Nat.div_lt_of_lt_mul hproduct
      · exact ih

theorem always_below64 {bound : Nat} (hbound : 0 < bound) : Always (· < bound) (below64 bound) := by
  unfold below64
  split
  · next hwide =>
      apply always_word64.mono
      intro n hn
      exact Nat.lt_of_lt_of_le hn hwide
  · exact always_belowZone always_word64 _ hbound _

theorem always_byteBetween {low high : Nat} (hends : low ≤ high) (hhigh : high < 256) :
    Always (fun b => low ≤ b.toNat ∧ b.toNat ≤ high) (byteBetween low high) := by
  unfold byteBetween
  apply (always_belowZone always_word32 _ (Nat.succ_pos (high - low)) _).bind
  intro n hn
  apply Always.pure
  have hbyte : (UInt8.ofNat (low + n)).toNat = low + n := by
    rw [UInt8.toNat_ofNat']
    exact Nat.mod_eq_of_lt (by omega)
  omega

/-- A draw between two ends lies between them, as long as there are fewer than `2 ^ 64`
numbers to draw from. -/
theorem always_between {low high : Int} (hspan : high - low + 1 < 2 ^ 64) :
    Always (fun drawn => ∀ i, drawn = some i → low ≤ i ∧ i ≤ high) (between low high) := by
  unfold between
  split
  · exact Always.pure (by simp)
  · next hends =>
      have hbound : 0 < (high - low + 1).toNat := by omega
      apply (always_below64 hbound).bind
      intro n hn
      apply Always.pure
      have hnarrow : ¬ 2 ^ 64 ≤ (high - low + 1).toNat := by omega
      rw [if_neg hnarrow]
      intro i hi
      cases hi
      omega

/-- A draw between two ends in order gives a number, and one that is congruent to a number
between them, however many there are to draw from. -/
theorem always_between_congruent {low high : Int} (hends : low ≤ high) :
    Always (fun drawn => ∃ i k, drawn = some i ∧ low ≤ k ∧ k ≤ high ∧ (2 ^ 64 : Int) ∣ k - i)
      (between low high) := by
  unfold between
  rw [if_neg (Int.not_lt.2 hends)]
  have hbound : 0 < (high - low + 1).toNat := by omega
  apply (always_below64 hbound).bind
  intro n hn
  apply Always.pure
  by_cases hwide : 2 ^ 64 ≤ (high - low + 1).toNat
  · rw [if_pos hwide]
    -- As many numbers as a word has patterns lie between the ends, so one has the pattern.
    refine ⟨_, low + ((BitVec.ofNat 64 n).toInt - low) % 2 ^ 64, rfl, ?_, ?_, ?_⟩
    · have hnonneg := Int.emod_nonneg ((BitVec.ofNat 64 n).toInt - low)
        (show (2 ^ 64 : Int) ≠ 0 by decide)
      omega
    · have hlt := Int.emod_lt_of_pos ((BitVec.ofNat 64 n).toInt - low)
        (show (0 : Int) < 2 ^ 64 by decide)
      omega
    · rw [Int.dvd_iff_emod_eq_zero]
      omega
  · rw [if_neg hwide]
    refine ⟨_, low + n, rfl, by omega, by omega, ?_⟩
    rw [Int.sub_self]
    exact Int.dvd_zero _

end Counterpart.Draw
