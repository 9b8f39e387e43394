/-
When a length has no count.  If every name in it has a value, then only because a sum or a
product in it comes to more than sixty-four bits hold.
-/
import Counterpart.Proofs.Length.Association
import Counterpart.Proofs.Length.Expr

namespace Counterpart.LengthExpr

/-- Some sum or product in the expression, in arithmetic without bounds, is beyond sixty-four
bits. -/
def Overflows (value? : String → Option Nat) : LengthExpr → Prop
  | const _ | param _ => False
  | add left right =>
      left.Overflows value? ∨ right.Overflows value? ∨
        ∃ n, (add left right).count? value? = some n ∧ 2 ^ 64 ≤ n
  | mul left right =>
      left.Overflows value? ∨ right.Overflows value? ∨
        ∃ n, (mul left right).count? value? = some n ∧ 2 ^ 64 ≤ n

section

variable {value? : String → Option Nat}

theorem checked_eq_none_iff {n : Nat} : checked n = none ↔ 2 ^ 64 ≤ n := by
  unfold checked
  by_cases hfits : n < 2 ^ 64
  · simp [hfits]
  · simp [hfits, Nat.le_of_not_lt hfits]

/-- The count of a length is the one without bounds. -/
theorem count?_of_eval? {e : LengthExpr} {n : Nat} (heval : e.eval? value? = some n) :
    e.count? value? = some n := by
  induction e generalizing n with
  | const m => exact heval
  | param name => exact heval
  | add left right ihLeft ihRight | mul left right ihLeft ihRight =>
      obtain ⟨l, hleft, hrest⟩ := Option.bind_eq_some_iff.1 heval
      obtain ⟨r, hright, hresult⟩ := Option.bind_eq_some_iff.1 hrest
      rw [count?, ihLeft hleft, ihRight hright, ← eq_of_checked hresult]
      rfl

/-- An operation has no count if an operand has none or its result is beyond the bits. -/
theorem checked_operation_eq_none_iff (operation : Nat → Nat → Nat) {left right : LengthExpr} :
    (do checked (operation (← left.eval? value?) (← right.eval? value?))) = none ↔
      left.eval? value? = none ∨ right.eval? value? = none ∨
        ∃ n, (do some (operation (← left.count? value?) (← right.count? value?))) = some n ∧
          2 ^ 64 ≤ n := by
  cases hleft : left.eval? value? with
  | none => simp
  | some l =>
      cases hright : right.eval? value? with
      | none => simp
      | some r => simp [checked_eq_none_iff, count?_of_eval? hleft, count?_of_eval? hright]

/-- A length whose names are known has no count exactly if it overflows. -/
theorem eval?_eq_none_iff {e : LengthExpr}
    (hknown : ∀ name ∈ e.names, (value? name).isSome = true) :
    e.eval? value? = none ↔ e.Overflows value? := by
  induction e with
  | const n => simp [eval?, Overflows]
  | param name =>
      have hname := hknown name (by simp [names, namesAfter])
      obtain ⟨n, hn⟩ := Option.isSome_iff_exists.1 hname
      simp [eval?, Overflows, hn]
  | add left right ihLeft ihRight =>
      rw [Overflows, ← ihLeft fun name hname => hknown name (mem_names_add.2 (.inl hname)),
        ← ihRight fun name hname => hknown name (mem_names_add.2 (.inr hname))]
      exact checked_operation_eq_none_iff (· + ·)
  | mul left right ihLeft ihRight =>
      rw [Overflows, ← ihLeft fun name hname => hknown name (mem_names_mul.2 (.inl hname)),
        ← ihRight fun name hname => hknown name (mem_names_mul.2 (.inr hname))]
      exact checked_operation_eq_none_iff (· * ·)

end

end Counterpart.LengthExpr
