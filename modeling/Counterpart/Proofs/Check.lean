/-
Checks that stop at the first fault.  A check is known once it is known when it passes and which
faults it reports.  Of checks one after another all must pass, and the first that does not is the
one that reports.
-/
import Counterpart.Proofs.Except

namespace Counterpart

variable {ε α β γ : Type}

/-- A check passes under a condition, and what it reports is one of some faults. -/
structure Decides (check : Except ε β) (passes : Prop) (faults : ε → Prop) : Prop where
  ok_iff : (∃ b, check = .ok b) ↔ passes
  error_iff : ∀ e, check = .error e ↔ faults e

namespace Decides

variable {check : Except ε β} {passes passes' : Prop} {faults faults' : ε → Prop}

theorem congr (hdecides : Decides check passes faults) (hpasses : passes ↔ passes')
    (hfaults : ∀ e, faults e ↔ faults' e) : Decides check passes' faults' where
  ok_iff := hdecides.ok_iff.trans hpasses
  error_iff e := (hdecides.error_iff e).trans (hfaults e)

theorem ok (b : β) : Decides (.ok b : Except ε β) True fun _ => False where
  ok_iff := iff_true_intro ⟨b, rfl⟩
  error_iff _ := iff_false_intro nofun

theorem eq_ok_iff {check : Except ε Unit} (hdecides : Decides check passes faults) :
    check = .ok () ↔ passes := by
  rw [← hdecides.ok_iff]
  exact ⟨fun h => ⟨(), h⟩, fun ⟨(), h⟩ => h⟩

theorem mapError {ε' : Type} (hdecides : Decides check passes faults) (f : ε → ε') :
    Decides (check.mapError f) passes fun e' => ∃ e, faults e ∧ f e = e' where
  ok_iff := by simp only [mapError_eq_ok_iff, hdecides.ok_iff]
  error_iff e' := by simp only [mapError_eq_error_iff, hdecides.error_iff]

/-- The second check is made with what the first one gave. -/
theorem bind {next : β → Except ε γ} (hfirst : Decides check passes faults)
    (hnext : ∀ b, check = .ok b → Decides (next b) passes' faults') :
    Decides (check >>= next) (passes ∧ passes') fun e => faults e ∨ passes ∧ faults' e where
  ok_iff := by
    constructor
    · rintro ⟨c, hc⟩
      obtain ⟨b, hb, hc⟩ := bind_eq_ok_iff.1 hc
      exact ⟨hfirst.ok_iff.1 ⟨b, hb⟩, (hnext b hb).ok_iff.1 ⟨c, hc⟩⟩
    · rintro ⟨hpasses, hpasses'⟩
      obtain ⟨b, hb⟩ := hfirst.ok_iff.2 hpasses
      obtain ⟨c, hc⟩ := (hnext b hb).ok_iff.2 hpasses'
      exact ⟨c, bind_eq_ok_iff.2 ⟨b, hb, hc⟩⟩
  error_iff e := by
    rw [bind_eq_error_iff, hfirst.error_iff]
    refine or_congr_right ?_
    constructor
    · rintro ⟨b, hb, he⟩
      exact ⟨hfirst.ok_iff.1 ⟨b, hb⟩, ((hnext b hb).error_iff e).1 he⟩
    · rintro ⟨hpasses, he⟩
      obtain ⟨b, hb⟩ := hfirst.ok_iff.2 hpasses
      exact ⟨b, hb, ((hnext b hb).error_iff e).2 he⟩

end Decides

/-- Every element of a list is fine behind those in front of it. -/
def AllFine (fine : List α → α → Prop) (xs : List α) : Prop :=
  ∀ before x after, xs = before ++ x :: after → fine before x

/-- The first element of a list that is not fine behind those in front of it is at fault. -/
def FirstFault (fine : List α → α → Prop) (fault : List α → α → ε → Prop) (xs : List α) (e : ε) :
    Prop :=
  ∃ before x after, xs = before ++ x :: after ∧ AllFine fine before ∧ fault before x e

section Lists

variable {fine : List α → α → Prop} {fault : List α → α → ε → Prop} {x : α} {xs : List α}

theorem allFine_nil : AllFine fine [] := by
  intro before x after hsplit
  simp at hsplit

theorem not_firstFault_nil {e : ε} : ¬ FirstFault fine fault [] e := by
  rintro ⟨before, x, after, hsplit, _⟩
  simp at hsplit

theorem allFine_cons_iff :
    AllFine fine (x :: xs) ↔ fine [] x ∧ AllFine (fun before => fine (x :: before)) xs := by
  constructor
  · intro hall
    refine ⟨hall [] x xs rfl, ?_⟩
    rintro before y after rfl
    exact hall (x :: before) y after rfl
  · rintro ⟨hfirst, hrest⟩ before y after hsplit
    cases before with
    | nil =>
        cases hsplit
        exact hfirst
    | cons z before =>
        cases hsplit
        exact hrest before y after rfl

theorem firstFault_cons_iff {e : ε} : FirstFault fine fault (x :: xs) e ↔ fault [] x e ∨
    fine [] x ∧
      FirstFault (fun before => fine (x :: before)) (fun before => fault (x :: before)) xs e := by
  constructor
  · rintro ⟨before, y, after, hsplit, hbefore, hy⟩
    cases before with
    | nil =>
        cases hsplit
        exact .inl hy
    | cons z before =>
        cases hsplit
        obtain ⟨hfirst, hbefore⟩ := allFine_cons_iff.1 hbefore
        exact .inr ⟨hfirst, before, y, after, rfl, hbefore, hy⟩
  · rintro (hx | ⟨hfirst, before, y, after, rfl, hbefore, hy⟩)
    · exact ⟨[], x, xs, rfl, allFine_nil, hx⟩
    · exact ⟨x :: before, y, after, rfl, allFine_cons_iff.2 ⟨hfirst, hbefore⟩, hy⟩

/-- Elements that are judged by themselves. -/
theorem allFine_iff_forall {fine : α → Prop} : AllFine (fun _ => fine) xs ↔ ∀ x ∈ xs, fine x := by
  induction xs with
  | nil => simp [allFine_nil]
  | cons x xs ih => rw [allFine_cons_iff, ih, List.forall_mem_cons]

theorem Decides.nil (b : β) : Decides (.ok b) (AllFine fine []) (FirstFault fine fault []) :=
  (Decides.ok b).congr (iff_of_true trivial allFine_nil) fun _ =>
    iff_of_false not_false not_firstFault_nil

/-- A list is checked by its first element, and then by the others behind that one. -/
theorem Decides.cons {first : Except ε β} {rest : β → Except ε γ}
    (hfirst : Decides first (fine [] x) (fault [] x))
    (hrest : ∀ b, first = .ok b → Decides (rest b) (AllFine (fun before => fine (x :: before)) xs)
      (FirstFault (fun before => fine (x :: before)) (fun before => fault (x :: before)) xs)) :
    Decides (first >>= rest) (AllFine fine (x :: xs)) (FirstFault fine fault (x :: xs)) :=
  (hfirst.bind hrest).congr allFine_cons_iff.symm fun _ => firstFault_cons_iff.symm

theorem decides_mapM (f : α → Except ε β) (xs : List α) :
    Decides (xs.mapM f) (∀ x ∈ xs, ∃ b, f x = .ok b)
      (FirstFault (fun _ x => ∃ b, f x = .ok b) (fun _ x e => f x = .error e) xs) := by
  refine Decides.congr ?_ allFine_iff_forall fun _ => Iff.rfl
  induction xs with
  | nil => exact .nil []
  | cons x xs ih =>
      rw [List.mapM_cons]
      refine .cons ⟨Iff.rfl, fun _ => Iff.rfl⟩ fun b _ => ?_
      exact (ih.bind fun bs _ => .ok (b :: bs)).congr (and_iff_left trivial) fun _ =>
        or_iff_left fun h => h.2

end Lists

end Counterpart
