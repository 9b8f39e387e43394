/-
Lengths over the integers.  Where a length has a count of sixty-four bits, it has the same
value in arithmetic without bounds.
-/
import Counterpart.Length.Expr

namespace Counterpart.LengthExpr

/-- The value of a length in terms of integers, without bounds. -/
def value? (integer? : String → Option Int) : LengthExpr → Option Int
  | const n => some n
  | param name => integer? name
  | add left right => do some ((← left.value? integer?) + (← right.value? integer?))
  | mul left right => do some ((← left.value? integer?) * (← right.value? integer?))

theorem mem_namesAfter {e : LengthExpr} {seen : List String} {name : String} :
    name ∈ e.namesAfter seen ↔ name ∈ seen ∨ name ∈ e.names := by
  unfold names
  induction e generalizing seen with
  | const n => simp [namesAfter]
  | param other =>
      by_cases hother : other ∈ seen
      · rw [namesAfter, if_pos hother, namesAfter, if_neg (by simp), List.nil_append,
          List.mem_singleton]
        constructor
        · exact Or.inl
        · rintro (hname | rfl)
          · exact hname
          · exact hother
      · rw [namesAfter, if_neg hother, namesAfter, if_neg (by simp), List.mem_append]
        rfl
  | add left right ihLeft ihRight | mul left right ihLeft ihRight =>
      rw [namesAfter, ihRight, ihLeft, namesAfter, @ihRight (left.namesAfter []), or_assoc]

theorem mem_names_add {left right : LengthExpr} {name : String} :
    name ∈ (add left right).names ↔ name ∈ left.names ∨ name ∈ right.names := by
  rw [names, namesAfter]
  exact mem_namesAfter

theorem mem_names_mul {left right : LengthExpr} {name : String} :
    name ∈ (mul left right).names ↔ name ∈ left.names ∨ name ∈ right.names := by
  rw [names, namesAfter]
  exact mem_namesAfter

/-- The name of a parameter stands somewhere in the expression. -/
def Mentions (name : String) : LengthExpr → Prop
  | const _ => False
  | param other => other = name
  | add left right | mul left right => left.Mentions name ∨ right.Mentions name

theorem mem_names_iff {e : LengthExpr} {name : String} : name ∈ e.names ↔ e.Mentions name := by
  induction e with
  | const n => simp [names, namesAfter, Mentions]
  | param other => simp [names, namesAfter, Mentions, eq_comm]
  | add left right ihLeft ihRight => rw [mem_names_add, ihLeft, ihRight, Mentions]
  | mul left right ihLeft ihRight => rw [mem_names_mul, ihLeft, ihRight, Mentions]

theorem eq_of_checked {n m : Nat} (hchecked : checked n = some m) : n = m := by
  unfold checked at hchecked
  split at hchecked
  · exact Option.some.inj hchecked
  · cases hchecked

/-- The count of a length is its value, if the names have the same values in both. -/
theorem value?_of_eval? {count? : String → Option Nat} {integer? : String → Option Int}
    {e : LengthExpr} {n : Nat} (heval : e.eval? count? = some n)
    (hnames : ∀ name ∈ e.names, ∀ d, count? name = some d → integer? name = some (d : Int)) :
    e.value? integer? = some (n : Int) := by
  induction e generalizing n with
  | const m =>
      cases heval
      rfl
  | param name => exact hnames name (by simp [names, namesAfter]) n heval
  | add left right ihLeft ihRight =>
      obtain ⟨l, hleft, hrest⟩ := Option.bind_eq_some_iff.1 heval
      obtain ⟨r, hright, hsum⟩ := Option.bind_eq_some_iff.1 hrest
      have hl := ihLeft hleft fun name hname => hnames name (mem_names_add.2 (.inl hname))
      have hr := ihRight hright fun name hname => hnames name (mem_names_add.2 (.inr hname))
      simp [value?, hl, hr, ← eq_of_checked hsum]
  | mul left right ihLeft ihRight =>
      obtain ⟨l, hleft, hrest⟩ := Option.bind_eq_some_iff.1 heval
      obtain ⟨r, hright, hproduct⟩ := Option.bind_eq_some_iff.1 hrest
      have hl := ihLeft hleft fun name hname => hnames name (mem_names_mul.2 (.inl hname))
      have hr := ihRight hright fun name hname => hnames name (mem_names_mul.2 (.inr hname))
      simp [value?, hl, hr, ← eq_of_checked hproduct]

end Counterpart.LengthExpr
