/-
What a random row gives, whatever the stream: a property of every draw passes to the
samples built from it, and from those to the row.  The errors of a sample are followed in the
same way.
-/
import Counterpart.Generate.Random
import Counterpart.Proofs.Generate.Given
import Counterpart.Proofs.Random.Draw

namespace Counterpart.RandomRow

variable {α β : Type}

/-- Where a sample succeeds, its result has a property. -/
structure Ensures (P : α → Prop) (m : Sample α) : Prop where
  result : ∀ s a s', m.run s = .ok (a, s') → P a

namespace Ensures

theorem pure {P : α → Prop} {a : α} (ha : P a) : Ensures P (Pure.pure a) := by
  constructor
  intro s b s' hrun
  cases hrun
  exact ha

theorem bind {P : α → Prop} {Q : β → Prop} {m : Sample α} {f : α → Sample β}
    (hm : Ensures P m) (hf : ∀ a, P a → Ensures Q (f a)) : Ensures Q (m >>= f) := by
  constructor
  intro s b s' hrun
  obtain ⟨⟨a, s₁⟩, hfirst, hrest⟩ := bind_eq_ok_iff.1 hrun
  exact (hf a (hm.result _ _ _ hfirst)).result _ _ _ hrest

theorem mono {P Q : α → Prop} {m : Sample α} (hm : Ensures P m) (hPQ : ∀ a, P a → Q a) :
    Ensures Q m :=
  ⟨fun _ _ _ hrun => hPQ _ (hm.result _ _ _ hrun)⟩

theorem draw {P : α → Prop} {d : Draw α} (hd : Draw.Always P d) :
    Ensures P (RandomRow.draw d) := by
  constructor
  intro s a s' hrun
  have hpair : d.run s = (a, s') := Except.ok.inj hrun
  have ha := hd.result s
  rwa [hpair] at ha

/-- What is sampled first need not be known. -/
theorem after {Q : β → Prop} {m : Sample α} {f : α → Sample β} (hf : ∀ a, Ensures Q (f a)) :
    Ensures Q (m >>= f) := by
  constructor
  intro s b s' hrun
  obtain ⟨⟨a, s₁⟩, _, hrest⟩ := bind_eq_ok_iff.1 hrun
  exact (hf a).result _ _ _ hrest

theorem settled {P : α → Prop} {result : Except InputError α}
    (hresult : ∀ a, result = .ok a → P a) : Ensures P (RandomRow.settled result) := by
  constructor
  intro s a s' hrun
  obtain ⟨b, hb, hpair⟩ := map_eq_ok_iff.1 hrun
  cases hpair
  exact hresult _ hb

theorem mapM {R : α → β → Prop} {f : α → Sample β} {xs : List α}
    (hf : ∀ x, Ensures (R x) (f x)) : Ensures (List.Forall₂ R xs) (xs.mapM f) := by
  induction xs with
  | nil => exact pure .nil
  | cons x xs ih =>
      rw [List.mapM_cons]
      apply (hf x).bind
      intro y hy
      apply ih.bind
      intro ys hys
      exact pure (.cons hy hys)

end Ensures

/-- Where a sample fails, its error has a property. -/
structure FailsAs (E : InputError → Prop) (m : Sample α) : Prop where
  error : ∀ s e, m.run s = .error e → E e

namespace FailsAs

variable {E : InputError → Prop}

theorem pure (a : α) : FailsAs E (Pure.pure a) := by
  constructor
  intro s e hrun
  cases hrun

theorem draw (d : Draw α) : FailsAs E (RandomRow.draw d) := by
  constructor
  intro s e hrun
  cases hrun

theorem settled {result : Except InputError α} (hresult : ∀ e, result = .error e → E e) :
    FailsAs E (RandomRow.settled result) :=
  ⟨fun _ _ hrun => hresult _ (map_eq_error_iff.1 hrun)⟩

/-- What comes second is reached only with a result of what comes first. -/
theorem bind {P : α → Prop} {m : Sample α} {f : α → Sample β} (hm : FailsAs E m)
    (hresult : Ensures P m) (hf : ∀ a, P a → FailsAs E (f a)) : FailsAs E (m >>= f) := by
  constructor
  intro s e hrun
  rcases bind_eq_error_iff.1 hrun with hfirst | ⟨⟨a, s₁⟩, hfirst, hrest⟩
  · exact hm.error s e hfirst
  · exact (hf a (hresult.result _ _ _ hfirst)).error s₁ e hrest

/-- What comes first need not be known. -/
theorem after {m : Sample α} {f : α → Sample β} (hm : FailsAs E m) (hf : ∀ a, FailsAs E (f a)) :
    FailsAs E (m >>= f) :=
  hm.bind (P := fun _ => True) ⟨fun _ _ _ _ => trivial⟩ fun a _ => hf a

theorem mapM {f : α → Sample β} {xs : List α} (hf : ∀ x ∈ xs, FailsAs E (f x)) :
    FailsAs E (xs.mapM f) := by
  induction xs with
  | nil => exact pure []
  | cons x xs ih =>
      rw [List.mapM_cons]
      apply (hf x List.mem_cons_self).after
      intro y
      apply (ih fun z hz => hf z (List.mem_cons_of_mem x hz)).after
      intro ys
      exact pure (y :: ys)

end FailsAs

open Draw (Always)

theorem always_times {P : α → Prop} {d : Draw α} (hd : Always P d) (count : Nat) :
    Always (fun values => values.length = count ∧ ∀ a ∈ values, P a) (times count d) := by
  induction count with
  | zero => exact Always.pure (by simp)
  | succ count ih =>
      rw [times]
      apply hd.bind
      intro first hfirst
      apply ih.bind
      rintro rest ⟨hlength, hrest⟩
      apply Always.pure
      refine ⟨by rw [List.length_cons, hlength], ?_⟩
      intro a ha
      rcases List.mem_cons.1 ha with rfl | ha
      · exact hfirst
      · exact hrest a ha

theorem always_plainScalar (ty : ScalarType) : Always (ScalarValue.IsOf ty) (plainScalar ty) := by
  unfold plainScalar
  apply Always.after
  intro pick
  split
  case h_1 =>
    apply Always.after
    intro row
    exact Always.pure (BoundaryRow.isOf_plainScalar row ty)
  case h_2 | h_3 =>
    split
    case h_1 | h_2 =>
      apply Always.after
      intro n
      exact Always.pure (ScalarValue.isOf_ofInt _ _)
    case h_3 =>
      apply Always.after
      intro x
      exact Always.pure (ScalarValue.isOf_ofDouble _ _)
  case h_4 =>
    apply Always.after
    intro n
    exact Always.pure (ScalarValue.isOf_ofBits _ _)

theorem ensures_scalar (ty : ScalarType) (range : Option ValueRange) :
    Ensures (ScalarValue.IsOf ty) (scalar ty range) := by
  unfold scalar
  split
  · apply Ensures.after
    intro atEnd
    split
    · apply Ensures.after
      intro row
      exact Ensures.settled fun v hv => BoundaryRow.isOf_scalar hv
    · apply Ensures.after
      intro i
      exact Ensures.pure (ScalarValue.isOf_ofInt _ _)
  · exact Ensures.draw (always_plainScalar _)

theorem always_stringByte : Always (· ≠ 0) stringByte := by
  have hnonzero {low high : Nat} (hlow : 0 < low) (hends : low ≤ high) (hhigh : high < 256) :
      Always (· ≠ 0) (Draw.byteBetween low high) := by
    apply (Draw.always_byteBetween hends hhigh).mono
    rintro b ⟨hb, _⟩ rfl
    exact absurd hb (Nat.not_le.2 hlow)
  unfold stringByte
  apply Always.after
  intro printable
  split
  · exact hnonzero (by decide) (by decide) (by decide)
  · exact hnonzero (by decide) (by decide) (by decide)

theorem always_string (maxLen : Nat) : Always (0 ∉ ·) (string maxLen) := by
  unfold string
  apply Always.after
  intro count
  apply (always_times always_stringByte count).mono
  rintro content ⟨_, hall⟩ hmem
  exact hall 0 hmem rfl

variable {config : GeneratorConfig} {dims : Dims} {p : Param}

theorem ensures_orNull {m : Sample ArgValue} (hm : Ensures (Given config .random dims p) m) :
    Ensures (Given config .random dims p)
      (if p.nullable = true then do
        if ← draw (Draw.chance 1 8) then pure .null else m
      else m) := by
  split
  · next hnullable =>
      apply Ensures.after
      intro toNull
      split
      · exact Ensures.pure (.null (.inl hnullable))
      · exact hm
  · exact hm

theorem ensures_value (config : GeneratorConfig) (dims : Dims) (p : Param) :
    Ensures (Given config .random dims p) (value config dims p) := by
  unfold value
  dsimp only
  apply ensures_orNull
  split
  case h_1 ty hty =>
    split
    · next dim hdim => exact Ensures.pure (.dimension hty hdim)
    · next hfree =>
        apply (ensures_scalar ty p.range).bind
        intro v hv
        exact Ensures.pure (.scalar hty hfree hv)
  case h_2 elem length isMutable hty =>
    apply (Ensures.settled fun elems helems => resolveLength_eq_ok helems).bind
    rintro elems ⟨heval, hcap⟩
    apply (Ensures.draw (always_times (always_plainScalar elem) elems)).bind
    rintro values ⟨rfl, hvalues⟩
    exact Ensures.pure (.buffer hty heval hcap hvalues)
  case h_3 isMutable hty =>
    apply (Ensures.draw (always_string config.maxStringLen)).bind
    intro content hnul
    exact Ensures.pure (.cstring hty hnul)
  case h_4 size isMutable hty =>
    split
    · apply Ensures.settled
      intro v hv
      cases hv
    · have hbytes : Always (fun _ => True) Draw.byte := ⟨fun _ => trivial⟩
      apply (Ensures.draw (always_times hbytes size)).bind
      rintro content ⟨hsize, _⟩
      exact Ensures.pure (.bytes hty hsize)
  case h_5 fields hty =>
    apply (Ensures.draw (Always.mapM always_plainScalar)).bind
    intro values hfields
    exact Ensures.pure (.aggregate hty hfields)

/-- A random row gives every parameter a value, under dimensions that have every property
of those it samples. -/
theorem ensures_build {sig : Signature} {P : Dims → Prop}
    (hdims : Ensures P (RandomRow.dims config sig sig.dimensions)) :
    Ensures (fun values => ∃ dims, P dims ∧
      List.Forall₂ (Given config .random dims) sig.params values) (build config sig) := by
  unfold build
  apply hdims.bind
  intro dims hP
  apply (Ensures.mapM (ensures_value config dims)).mono
  intro values hvalues
  exact ⟨dims, hP, hvalues⟩

end Counterpart.RandomRow
