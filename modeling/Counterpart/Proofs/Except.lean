/-
When a computation that may fail succeeds, with and without a state.
-/
import Mathlib.Data.List.Forall2

namespace Counterpart

variable {ε α β σ : Type}

theorem bind_eq_ok_iff {x : Except ε α} {f : α → Except ε β} {b : β} :
    x >>= f = .ok b ↔ ∃ a, x = .ok a ∧ f a = .ok b := by
  cases x with
  | error e => simp [bind, Except.bind]
  | ok a => simp [bind, Except.bind]

theorem bind_eq_error_iff {x : Except ε α} {f : α → Except ε β} {e : ε} :
    x >>= f = .error e ↔ x = .error e ∨ ∃ a, x = .ok a ∧ f a = .error e := by
  cases x with
  | error e => simp [bind, Except.bind]
  | ok a => simp [bind, Except.bind]

theorem map_eq_ok_iff {x : Except ε α} {f : α → β} {b : β} :
    x.map f = .ok b ↔ ∃ a, x = .ok a ∧ f a = b := by
  cases x with
  | error e => simp [Except.map]
  | ok a => simp [Except.map]

theorem map_eq_error_iff {x : Except ε α} {f : α → β} {e : ε} :
    x.map f = .error e ↔ x = .error e := by
  cases x with
  | error e => simp [Except.map]
  | ok a => simp [Except.map]

theorem mapError_eq_ok_iff {ε' : Type} {x : Except ε α} {f : ε → ε'} {a : α} :
    x.mapError f = .ok a ↔ x = .ok a := by
  cases x with
  | error e => simp [Except.mapError]
  | ok a => simp [Except.mapError]

theorem mapError_eq_error_iff {ε' : Type} {x : Except ε α} {f : ε → ε'} {e' : ε'} :
    x.mapError f = .error e' ↔ ∃ e, x = .error e ∧ f e = e' := by
  cases x with
  | error e => simp [Except.mapError]
  | ok a => simp [Except.mapError]

theorem toOption_eq_some_iff {x : Except ε α} {a : α} : x.toOption = some a ↔ x = .ok a := by
  cases x with
  | error e => simp [Except.toOption]
  | ok a => simp [Except.toOption]

/-- Where a guard stands in front, a result is there only if the guard does not hold. -/
theorem not_of_guard_eq_ok {c : Prop} [Decidable c] {e : ε} {x : Except ε α} {a : α}
    (hresult : (if c then .error e else x) = .ok a) : ¬ c := by
  intro hguard
  rw [if_pos hguard] at hresult
  cases hresult

theorem mapM_eq_ok_iff {f : α → Except ε β} {xs : List α} {ys : List β} :
    xs.mapM f = .ok ys ↔ List.Forall₂ (fun x y => f x = .ok y) xs ys := by
  induction xs generalizing ys with
  | nil => cases ys <;> simp [pure, Except.pure]
  | cons x xs ih =>
      rw [List.mapM_cons, bind_eq_ok_iff, List.forall₂_cons_left_iff]
      constructor
      · rintro ⟨y, hy, hbind⟩
        obtain ⟨rest, hrest, hall⟩ := bind_eq_ok_iff.1 hbind
        cases hall
        exact ⟨y, rest, hy, ih.1 hrest, rfl⟩
      · rintro ⟨y, rest, hy, hrest, rfl⟩
        exact ⟨y, hy, bind_eq_ok_iff.2 ⟨rest, ih.2 hrest, rfl⟩⟩

/-- A pass over a list fails where it fails for an element. -/
theorem exists_error_of_mapM {f : α → Except ε β} {xs : List α} {e : ε}
    (herror : xs.mapM f = .error e) : ∃ x ∈ xs, f x = .error e := by
  induction xs with
  | nil => simp [pure, Except.pure] at herror
  | cons x xs ih =>
      rw [List.mapM_cons] at herror
      rcases bind_eq_error_iff.1 herror with hx | ⟨y, _, hrest⟩
      · exact ⟨x, List.mem_cons_self, hx⟩
      · rcases bind_eq_error_iff.1 hrest with hxs | ⟨ys, _, hpure⟩
        · obtain ⟨z, hz, hfails⟩ := ih hxs
          exact ⟨z, List.mem_cons_of_mem x hz, hfails⟩
        · simp [pure, Except.pure] at hpure

/-- From one state a computation gives a result and ends in another state. -/
def Gives (m : ExceptT ε (StateM σ) α) (s : σ) (a : α) (t : σ) : Prop :=
  (ExceptT.run m).run s = (.ok a, t)

theorem gives_pure (a : α) (s : σ) : Gives (pure a : ExceptT ε (StateM σ) α) s a s :=
  rfl

theorem gives_bind_iff {m : ExceptT ε (StateM σ) α} {f : α → ExceptT ε (StateM σ) β}
    {s u : σ} {b : β} :
    Gives (m >>= f) s b u ↔ ∃ a t, Gives m s a t ∧ Gives (f a) t b u := by
  unfold Gives
  change StateT.run (ExceptT.bindCont f ((ExceptT.run m).run s).1) ((ExceptT.run m).run s).2 = _ ↔ _
  obtain ⟨result, t⟩ := (ExceptT.run m).run s
  cases result with
  | error e =>
      constructor
      · intro hgives
        cases hgives
      · rintro ⟨a, t', hm, _⟩
        cases hm
  | ok a =>
      constructor
      · intro hgives
        exact ⟨a, t, rfl, hgives⟩
      · rintro ⟨a', t', hm, hf⟩
        cases hm
        exact hf

/-- From one state a computation fails and ends in another state. -/
def Fails (m : ExceptT ε (StateM σ) α) (s : σ) (e : ε) (t : σ) : Prop :=
  (ExceptT.run m).run s = (.error e, t)

theorem fails_bind_iff {m : ExceptT ε (StateM σ) α} {f : α → ExceptT ε (StateM σ) β}
    {s u : σ} {e : ε} :
    Fails (m >>= f) s e u ↔ Fails m s e u ∨ ∃ a t, Gives m s a t ∧ Fails (f a) t e u := by
  unfold Gives Fails
  change StateT.run (ExceptT.bindCont f ((ExceptT.run m).run s).1) ((ExceptT.run m).run s).2 = _ ↔ _
  obtain ⟨result, t⟩ := (ExceptT.run m).run s
  cases result with
  | error e' =>
      constructor
      · intro hfails
        cases hfails
        exact .inl rfl
      · rintro (hm | ⟨a, t', hm, _⟩)
        · cases hm
          rfl
        · cases hm
  | ok a =>
      constructor
      · intro hfails
        exact .inr ⟨a, t, rfl, hfails⟩
      · rintro (hm | ⟨a', t', hm, hf⟩)
        · cases hm
        · cases hm
          exact hf

theorem forall₂_of_gives_mapM {f : α → ExceptT ε (StateM σ) β} {xs : List α} {ys : List β}
    {s u : σ} (hgives : Gives (xs.mapM f) s ys u) :
    List.Forall₂ (fun x y => ∃ s t, Gives (f x) s y t) xs ys := by
  induction xs generalizing ys s with
  | nil =>
      cases hgives
      exact .nil
  | cons x xs ih =>
      rw [List.mapM_cons] at hgives
      obtain ⟨y, t, hy, hgives⟩ := gives_bind_iff.1 hgives
      obtain ⟨rest, t', hrest, hpure⟩ := gives_bind_iff.1 hgives
      cases hpure
      exact .cons ⟨s, t, hy⟩ (ih hrest)

end Counterpart
