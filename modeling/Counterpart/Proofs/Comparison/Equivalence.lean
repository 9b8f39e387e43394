/-
Comparing without a tolerance is fair to both sides.  Executions whose snapshots observe the
same bytes get the same verdict in either order, and to pass is an equivalence between them,
although the comparison takes what is observed from the original alone.
-/
import Counterpart.Proofs.Comparison.Classified

namespace Counterpart

/-- Two snapshots of an object that observe the same bytes of it. -/
def Snapshot.SameMask (a b : Snapshot) : Prop :=
  a.logicalLen = b.logicalLen ∧ a.ignore = b.ignore

theorem Snapshot.SameMask.observed_iff {a b : Snapshot} (hmask : a.SameMask b) (index : Nat) :
    a.Observed index ↔ b.Observed index := by
  rw [Observed, Observed, hmask.1, hmask.2]

namespace Comparison

/-- Floating-point scalars of one type, neither of which is a number. -/
def BothNaN (ret ret' : ReturnValue) : Prop :=
  ∃ a b : ScalarValue, ret = .scalar a ∧ ret' = .scalar b ∧ a.ty.isFloat = true ∧ a.ty = b.ty ∧
    a.IsNaN ∧ b.IsNaN

theorem returnsAgree_iff (ret ret' : ReturnValue) :
    ReturnsAgree ret ret' ↔ ret = ret' ∨ BothNaN ret ret' := by
  cases ret with
  | scalar a =>
      cases ret' with
      | scalar b =>
          rw [ReturnsAgree, ReturnValue.scalar.injEq]
          split
          · next hfloat =>
              constructor
              · rintro (hnan | hbits)
                · exact Or.inr ⟨a, b, rfl, rfl, hfloat.1, hfloat.2, hnan⟩
                · obtain ⟨ty, bits⟩ := a
                  obtain ⟨ty', bits'⟩ := b
                  cases hfloat.2
                  cases hbits
                  exact Or.inl rfl
              · rintro (rfl | ⟨_, _, ha, hb, _, _, hnan⟩)
                · exact Or.inr rfl
                · cases ha
                  cases hb
                  exact Or.inl hnan
          · next hfloat =>
              constructor
              · exact Or.inl
              · rintro (heq | ⟨_, _, ha, hb, hty, hsame, _⟩)
                · exact heq
                · cases ha
                  cases hb
                  exact absurd ⟨hty, hsame⟩ hfloat
      | void | pointer _ | str _ => simp [ReturnsAgree, BothNaN]
  | void | pointer _ | str _ => simp [ReturnsAgree, BothNaN]

theorem ReturnsAgree.symm {ret ret' : ReturnValue} (hagree : ReturnsAgree ret ret') :
    ReturnsAgree ret' ret := by
  rw [returnsAgree_iff] at hagree ⊢
  rcases hagree with rfl | ⟨a, b, ha, hb, hfloat, hty, hnan, hnan'⟩
  · exact Or.inl rfl
  · exact Or.inr ⟨b, a, hb, ha, hty ▸ hfloat, hty.symm, hnan', hnan⟩

theorem ReturnsAgree.trans {ret ret' ret'' : ReturnValue} (hfirst : ReturnsAgree ret ret')
    (hsecond : ReturnsAgree ret' ret'') : ReturnsAgree ret ret'' := by
  rw [returnsAgree_iff] at hfirst hsecond ⊢
  rcases hfirst with rfl | hboth
  · exact hsecond
  · rcases hsecond with rfl | ⟨b', c, hb', hc, _, hty', _, hnan'⟩
    · exact Or.inr hboth
    · obtain ⟨a, b, ha, hb, hfloat, hty, hnan, _⟩ := hboth
      cases hb.symm.trans hb'
      exact Or.inr ⟨a, c, ha, hc, hfloat, hty.trans hty', hnan, hnan'⟩

/-- Snapshots at common positions observe the same bytes. -/
def SameMasks (snapshots snapshots' : List Snapshot) : Prop :=
  ∀ (position : Nat) (a b : Snapshot), snapshots[position]? = some a →
    snapshots'[position]? = some b → a.SameMask b

variable {as bs cs : List Snapshot}

theorem SameMasks.symm (hmasks : SameMasks as bs) : SameMasks bs as := by
  intro position b a hb ha
  obtain ⟨hlength, hignore⟩ := hmasks position a b ha hb
  exact ⟨hlength.symm, hignore.symm⟩

theorem not_memoryDiffers_iff : ¬ MemoryDiffers as bs ↔ as.length = bs.length ∧
    ∀ (position : Nat) (a b : Snapshot), as[position]? = some a → bs[position]? = some b →
      ∀ i, a.Observed i → a.after[i]? = b.after[i]? := by
  rw [MemoryDiffers, not_or, Decidable.not_not]
  refine and_congr_right fun _ => ?_
  constructor
  · intro hsame position a b ha hb i hobserved
    apply Decidable.byContradiction
    intro hne
    exact hsame ⟨position, a, b, i, ha, hb, hobserved, hne⟩
  · rintro hsame ⟨position, a, b, i, ha, hb, hobserved, hne⟩
    exact hne (hsame position a b ha hb i hobserved)

theorem not_memoryDiffers_self (as : List Snapshot) : ¬ MemoryDiffers as as := by
  rw [not_memoryDiffers_iff]
  refine ⟨rfl, ?_⟩
  intro position a b ha hb i _
  cases ha.symm.trans hb
  rfl

theorem MemoryDiffers.symm (hmasks : SameMasks as bs) (hdiffers : MemoryDiffers as bs) :
    MemoryDiffers bs as := by
  rcases hdiffers with hlength | ⟨position, a, b, i, ha, hb, hobserved, hne⟩
  · exact Or.inl (Ne.symm hlength)
  · have hobserved' := ((hmasks position a b ha hb).observed_iff i).1 hobserved
    exact Or.inr ⟨position, b, a, i, hb, ha, hobserved', Ne.symm hne⟩

/-- What the first list has at an observed byte, the second has there and so the third. -/
theorem not_memoryDiffers_trans (hmasks : SameMasks as bs) (hfirst : ¬ MemoryDiffers as bs)
    (hsecond : ¬ MemoryDiffers bs cs) : ¬ MemoryDiffers as cs := by
  rw [not_memoryDiffers_iff] at hfirst hsecond ⊢
  refine ⟨hfirst.1.trans hsecond.1, ?_⟩
  intro position a c ha hc i hobserved
  obtain ⟨b, hb⟩ : ∃ b, bs[position]? = some b := by
    have hlt := (List.getElem?_eq_some_iff.1 ha).1
    rw [hfirst.1] at hlt
    exact ⟨_, List.getElem?_eq_getElem hlt⟩
  have hobserved' := ((hmasks position a b ha hb).observed_iff i).1 hobserved
  calc a.after[i]? = b.after[i]? := hfirst.2 position a b ha hb i hobserved
    _ = c.after[i]? := hsecond.2 position b c hb hc i hobserved'

end Comparison

open Comparison

/-- Executions of the same arguments, whose snapshots agree position by position on what is
observed. -/
def Execution.Aligned : Execution → Execution → Prop
  | .completed _ snapshots, .completed _ snapshots' => SameMasks snapshots snapshots'
  | _, _ => True

/-- The verdict does not depend on which side is called the original. -/
theorem Classified.swap {a b : Execution} {v : Verdict} (haligned : a.Aligned b)
    (hclassified : Classified a b v) : Classified b a v := by
  cases hclassified with
  | sameFault fault => exact .sameFault fault
  | otherFault hne => exact .otherFault (Ne.symm hne)
  | originalTimeout ret snapshots => exact .decompiledTimeout ret snapshots
  | decompiledTimeout ret snapshots => exact .originalTimeout ret snapshots
  | originalCrash hfault ret snapshots => exact .decompiledCrash hfault ret snapshots
  | decompiledCrash hfault ret snapshots => exact .originalCrash hfault ret snapshots
  | sideEffect hmemory ret ret' => exact .sideEffect (hmemory.symm haligned) ret' ret
  | value hmemory hreturns =>
      have hback : SameMasks _ _ := SameMasks.symm haligned
      exact .value (fun hdiffers => hmemory (hdiffers.symm hback))
        (fun hagree => hreturns hagree.symm)
  | alike hmemory hreturns =>
      have hback : SameMasks _ _ := SameMasks.symm haligned
      exact .alike (fun hdiffers => hmemory (hdiffers.symm hback)) hreturns.symm

/-- Executions that pass: the same fault, or complete executions that agree. -/
inductive Alike : Execution → Execution → Prop
  | fault (fault : Fault) : Alike (.faulted fault) (.faulted fault)
  | complete {ret ret' : ReturnValue} {snapshots snapshots' : List Snapshot}
      (hmemory : ¬ MemoryDiffers snapshots snapshots') (hreturns : ReturnsAgree ret ret') :
      Alike (.completed ret snapshots) (.completed ret' snapshots')

theorem isPass_compare_iff {tolerance : Double} (hzero : tolerance.eq Double.zero = true)
    (a b : Execution) : (compare tolerance a b).verdict.isPass = true ↔ Alike a b := by
  have hclassified := classified_compare hzero a b
  constructor
  · intro hpass
    generalize (compare tolerance a b).verdict = v at hclassified hpass
    cases hclassified with
    | sameFault fault => exact .fault fault
    | alike hmemory hreturns => exact .complete hmemory hreturns
    | otherFault | originalTimeout | decompiledTimeout | originalCrash | decompiledCrash
    | sideEffect | value => cases hpass
  · intro halike
    cases halike with
    | fault fault =>
        rw [hclassified.unique (.sameFault fault)]
        rfl
    | complete hmemory hreturns =>
        rw [hclassified.unique (.alike hmemory hreturns)]
        rfl

theorem Alike.trans {a b c : Execution} (haligned : a.Aligned b) (hfirst : Alike a b)
    (hsecond : Alike b c) : Alike a c := by
  cases hfirst with
  | fault fault => exact hsecond
  | complete hmemory hreturns =>
      cases hsecond with
      | complete hmemory' hreturns' =>
          exact .complete (not_memoryDiffers_trans haligned hmemory hmemory')
            (hreturns.trans hreturns')

/-- At a tolerance of zero, aligned executions get the same verdict in either order, every
execution passes against itself, and what passes against something that passes, passes. -/
theorem verdict_symmetric_passes_equivalence (tolerance : Double)
    (hzero : tolerance.eq Double.zero = true) :
    (∀ a b : Execution, a.Aligned b →
      (compare tolerance a b).verdict = (compare tolerance b a).verdict) ∧
    (∀ ret snapshots, (compare tolerance (.completed ret snapshots)
      (.completed ret snapshots)).verdict = .equivalent) ∧
    (∀ fault, (compare tolerance (.faulted fault) (.faulted fault)).verdict =
      .equivalentByFault) ∧
    ∀ a b c : Execution, a.Aligned b → (compare tolerance a b).verdict.isPass = true →
      (compare tolerance b c).verdict.isPass = true →
      (compare tolerance a c).verdict.isPass = true := by
  refine ⟨?_, ?_, ?_, ?_⟩
  · intro a b haligned
    have hswapped := (classified_compare hzero a b).swap haligned
    exact hswapped.unique (classified_compare hzero b a)
  · intro ret snapshots
    have hreturns := (returnsAgree_iff ret ret).2 (Or.inl rfl)
    exact (classified_compare hzero _ _).unique (.alike (not_memoryDiffers_self _) hreturns)
  · intro fault
    exact (classified_compare hzero _ _).unique (.sameFault fault)
  · intro a b c haligned hfirst hsecond
    rw [isPass_compare_iff hzero] at hfirst hsecond ⊢
    exact hfirst.trans haligned hsecond

namespace Padded

/-- The result is no number, and what is written leaves a byte of padding as it happens to be. -/
def run (pattern : Word) (padding : UInt8) : Execution :=
  .completed (.scalar ⟨.f32, pattern⟩)
    [⟨1, "out", 3, [0, 0, 0, 0xa5], [7, padding, 8, 0xa5], [⟨1, 1⟩]⟩]

def first : Execution := run 0x7fc00000 1

def second : Execution := run 0xffc00001 2

def third : Execution := run 0x7f800001 3

theorem aligned : first.Aligned second := by
  rintro (_ | position) a b ha hb
  · cases ha
    cases hb
    exact ⟨rfl, rfl⟩
  · cases ha

end Padded

open Padded in
theorem verdict_symmetric_passes_equivalence_padded :
    Double.zero.eq Double.zero = true ∧ first.Aligned second ∧
      (compare Double.zero first second).verdict = (compare Double.zero second first).verdict ∧
      (compare Double.zero first second).verdict.isPass = true ∧
      (compare Double.zero second third).verdict.isPass = true ∧
      (compare Double.zero first third).verdict.isPass = true := by
  have hzero : Double.zero.eq Double.zero = true := by decide
  have hfirst : (compare Double.zero first second).verdict.isPass = true := by decide
  have hsecond : (compare Double.zero second third).verdict.isPass = true := by decide
  obtain ⟨hsymmetric, _, _, htransitive⟩ :=
    verdict_symmetric_passes_equivalence Double.zero hzero
  exact ⟨hzero, aligned, hsymmetric _ _ aligned, hfirst, hsecond,
    htransitive _ _ _ aligned hfirst hsecond⟩

end Counterpart
