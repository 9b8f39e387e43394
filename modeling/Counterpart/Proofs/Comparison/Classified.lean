/-
What the comparison of two executions comes to, without a tolerance.  Every pair of
executions has exactly one verdict, which is the one that `compare` gives.
-/
import Counterpart.Proofs.Binary.NaN
import Counterpart.Proofs.Comparison.Memory

namespace Counterpart

namespace Comparison

/-- Floating-point scalars of one type agree if neither is a number or their bits are
equal; all other results agree if they are equal. -/
def ReturnsAgree : ReturnValue → ReturnValue → Prop
  | .scalar a, .scalar b =>
      if a.ty.isFloat = true ∧ a.ty = b.ty then (a.IsNaN ∧ b.IsNaN) ∨ a.bits = b.bits
      else a = b
  | original, decompiled => original = decompiled

theorem floatsMatch_iff {tolerance : Double} (hzero : tolerance.eq Double.zero = true)
    {a b : ScalarValue} (hty : a.ty = b.ty) :
    floatsMatch tolerance a b = true ↔ (a.IsNaN ∧ b.IsNaN) ∨ a.bits = b.bits := by
  have hx := a.isNaN_toDouble
  have hy := b.isNaN_toDouble
  -- Of equal bits either both or neither are a number.
  have hbits : a.bits = b.bits → (a.IsNaN ↔ b.IsNaN) := by
    intro heq
    rw [ScalarValue.IsNaN, ScalarValue.IsNaN, hty, heq]
  rw [← hx, ← hy] at hbits ⊢
  simp only [floatsMatch, hzero, if_true]
  split
  · next hnan =>
      rw [Bool.or_eq_true] at hnan
      rw [Bool.and_eq_true]
      constructor
      · exact Or.inl
      · rintro (hboth | heq)
        · exact hboth
        · rcases hnan with hx | hy
          · exact ⟨hx, (hbits heq).1 hx⟩
          · exact ⟨(hbits heq).2 hy, hy⟩
  · next hnumbers =>
      rw [Bool.or_eq_true] at hnumbers
      rw [beq_iff_eq]
      constructor
      · exact Or.inr
      · rintro (hboth | heq)
        · exact absurd (Or.inl hboth.1) hnumbers
        · exact heq

theorem returnsMatch_iff {tolerance : Double} (hzero : tolerance.eq Double.zero = true)
    (original decompiled : ReturnValue) :
    returnsMatch tolerance original decompiled = true ↔ ReturnsAgree original decompiled := by
  cases original with
  | scalar a =>
      cases decompiled with
      | scalar b =>
          simp only [returnsMatch, ReturnsAgree, Bool.and_eq_true, beq_iff_eq]
          split
          · next hfloat => exact floatsMatch_iff hzero hfloat.2
          · simp
      | void | pointer _ | str _ => simp [returnsMatch, ReturnsAgree]
  | void | pointer _ | str _ => simp [returnsMatch, ReturnsAgree]

theorem returnDetail?_eq_none_iff {tolerance : Double}
    (hzero : tolerance.eq Double.zero = true) (original decompiled : ReturnValue) :
    returnDetail? tolerance original decompiled = none ↔ ReturnsAgree original decompiled := by
  rw [← returnsMatch_iff hzero, returnDetail?]
  split
  · next hmatch => simp [hmatch]
  · next hmatch => simp [hmatch]

end Comparison

open Comparison

/-- The verdict on a pair of executions, by what faulted and what differs. -/
inductive Classified : Execution → Execution → Verdict → Prop
  | sameFault (fault : Fault) :
      Classified (.faulted fault) (.faulted fault) .equivalentByFault
  | otherFault {a b : Fault} (hne : a ≠ b) :
      Classified (.faulted a) (.faulted b) .crashMismatch
  | originalTimeout (ret : ReturnValue) (snapshots : List Snapshot) :
      Classified (.faulted .timeout) (.completed ret snapshots) .timeout
  | decompiledTimeout (ret : ReturnValue) (snapshots : List Snapshot) :
      Classified (.completed ret snapshots) (.faulted .timeout) .timeout
  | originalCrash {fault : Fault} (hfault : fault ≠ .timeout) (ret : ReturnValue)
      (snapshots : List Snapshot) :
      Classified (.faulted fault) (.completed ret snapshots) .crashMismatch
  | decompiledCrash {fault : Fault} (hfault : fault ≠ .timeout) (ret : ReturnValue)
      (snapshots : List Snapshot) :
      Classified (.completed ret snapshots) (.faulted fault) .crashMismatch
  | sideEffect {snapshots snapshots' : List Snapshot}
      (hmemory : MemoryDiffers snapshots snapshots') (ret ret' : ReturnValue) :
      Classified (.completed ret snapshots) (.completed ret' snapshots') .sideEffectMismatch
  | value {ret ret' : ReturnValue} {snapshots snapshots' : List Snapshot}
      (hmemory : ¬ MemoryDiffers snapshots snapshots') (hreturns : ¬ ReturnsAgree ret ret') :
      Classified (.completed ret snapshots) (.completed ret' snapshots') .valueMismatch
  | alike {ret ret' : ReturnValue} {snapshots snapshots' : List Snapshot}
      (hmemory : ¬ MemoryDiffers snapshots snapshots') (hreturns : ReturnsAgree ret ret') :
      Classified (.completed ret snapshots) (.completed ret' snapshots') .equivalent

theorem Classified.unique {original decompiled : Execution} {v w : Verdict}
    (hv : Classified original decompiled v) (hw : Classified original decompiled w) :
    v = w := by
  cases hv <;> cases hw <;> first | rfl | contradiction

theorem classified_completed {tolerance : Double} (hzero : tolerance.eq Double.zero = true)
    (ret ret' : ReturnValue) (snapshots snapshots' : List Snapshot) :
    Classified (.completed ret snapshots) (.completed ret' snapshots')
      (compare tolerance (.completed ret snapshots) (.completed ret' snapshots')).verdict := by
  have hmemory : memoryDetail? snapshots snapshots' = none ↔
      ¬ MemoryDiffers snapshots snapshots' := memoryDetail?_eq_none_iff
  have hreturns := returnDetail?_eq_none_iff hzero ret ret'
  simp only [compare]
  cases hm : memoryDetail? snapshots snapshots' with
  | some memory =>
      have hdiffers : MemoryDiffers snapshots snapshots' := by
        apply Classical.not_not.1
        intro hsame
        rw [hmemory.2 hsame] at hm
        cases hm
      cases returnDetail? tolerance ret ret' with
      | none => exact .sideEffect hdiffers ret ret'
      | some _ => exact .sideEffect hdiffers ret ret'
  | none =>
      have hsame := hmemory.1 hm
      cases hr : returnDetail? tolerance ret ret' with
      | none => exact .alike hsame (hreturns.1 hr)
      | some _ =>
          apply Classified.value hsame
          intro hagree
          rw [hreturns.2 hagree] at hr
          cases hr

theorem classified_compare {tolerance : Double} (hzero : tolerance.eq Double.zero = true)
    (original decompiled : Execution) :
    Classified original decompiled (compare tolerance original decompiled).verdict := by
  cases original with
  | faulted a =>
      cases decompiled with
      | faulted b =>
          simp only [compare]
          by_cases heq : a = b
          · rw [if_pos heq, heq]
            exact .sameFault b
          · rw [if_neg heq]
            exact .otherFault heq
      | completed ret snapshots =>
          cases a with
          | timeout => exact .originalTimeout ret snapshots
          | signal _ | exit _ | garbled _ => exact .originalCrash (by simp) ret snapshots
  | completed ret snapshots =>
      cases decompiled with
      | faulted b =>
          cases b with
          | timeout => exact .decompiledTimeout ret snapshots
          | signal _ | exit _ | garbled _ => exact .decompiledCrash (by simp) ret snapshots
      | completed ret' snapshots' =>
          exact classified_completed hzero ret ret' snapshots snapshots'

theorem detail_eq_none_iff (tolerance : Double) (original decompiled : Execution) :
    (compare tolerance original decompiled).detail = none ↔
      (compare tolerance original decompiled).verdict = .equivalent := by
  unfold compare
  split
  · split <;> simp
  · simp
  · simp
  · simp
  · simp
  · unfold ofDetails
    split <;> simp

/-- The sentence on memory comes first, whatever the results are. -/
theorem exists_detail_of_commonDiffer (tolerance : Double) {ret ret' : ReturnValue}
    {snapshots snapshots' : List Snapshot} (hdiffer : CommonDiffer snapshots snapshots') :
    ∃ position a b i, FirstByte snapshots snapshots' position a b i ∧
      ∃ tail, (compare tolerance (.completed ret snapshots)
        (.completed ret' snapshots')).detail = some (byteDetail a b i ++ tail) := by
  cases hcommon : commonDetail? snapshots snapshots' with
  | none => exact absurd hdiffer (commonDetail?_eq_none_iff.1 hcommon)
  | some detail =>
      obtain ⟨position, a, b, i, hfirst, rfl⟩ := commonDetail?_eq_some hcommon
      refine ⟨position, a, b, i, hfirst, ?_⟩
      simp only [compare, memoryDetail?, hcommon]
      cases returnDetail? tolerance ret ret' with
      | none => exact ⟨"", by simp [ofDetails]⟩
      | some detail => exact ⟨"; " ++ detail, by simp [ofDetails, String.append_assoc]⟩

/-- At a tolerance of zero the verdict is the one by which the pair of executions is
classified and no other.  There is nothing to say exactly of executions that agree
completely.  If an observed byte differs, the detail opens with the first snapshot in which
one does and the least such byte of it, counted from the end of the object in the guard. -/
theorem compare_exact (tolerance : Double) (hzero : tolerance.eq Double.zero = true)
    (original decompiled : Execution) :
    (∀ verdict, (compare tolerance original decompiled).verdict = verdict ↔
      Classified original decompiled verdict) ∧
    ((compare tolerance original decompiled).detail = none ↔
      (compare tolerance original decompiled).verdict = .equivalent) ∧
    ∀ ret snapshots ret' snapshots', original = .completed ret snapshots →
      decompiled = .completed ret' snapshots' → CommonDiffer snapshots snapshots' →
      ∃ position a b i, FirstByte snapshots snapshots' position a b i ∧
        ∃ tail, (compare tolerance original decompiled).detail =
          some ("'" ++ a.name ++ "' " ++
            (if i < a.logicalLen then s!"byte {i}" else s!"guard byte {i - a.logicalLen}") ++
            (": original " ++ tail)) := by
  have hclassified := classified_compare hzero original decompiled
  refine ⟨?_, detail_eq_none_iff tolerance original decompiled, ?_⟩
  · intro verdict
    constructor
    · intro heq
      rw [← heq]
      exact hclassified
    · intro hother
      exact hclassified.unique hother
  · rintro ret snapshots ret' snapshots' rfl rfl hdiffer
    obtain ⟨position, a, b, i, hfirst, tail, hdetail⟩ :=
      exists_detail_of_commonDiffer tolerance hdiffer
    refine ⟨position, a, b, i, hfirst, String.ofList (byteText a.after[i]?) ++
      (" vs decompiled " ++ (String.ofList (byteText b.after[i]?) ++ tail)), ?_⟩
    rw [hdetail, byteDetail]
    simp only [String.append_assoc]

namespace GuardWrite

/-- The range covers a byte of the object and reaches into the guard behind it. -/
def first : Snapshot :=
  ⟨0, "out", 2, [0, 0, 0xa5], [1, 2, 0xa5], [⟨1, 4⟩]⟩

/-- A byte of the object differs where it is ignored, and the guard is missing. -/
def second : Snapshot :=
  ⟨0, "out", 2, [0, 0, 0xa5], [1, 9], [⟨1, 4⟩]⟩

def original : Execution := .completed .void [first]

def decompiled : Execution := .completed .void [second]

def negativeZero : Double := ⟨0x8000000000000000⟩

end GuardWrite

open GuardWrite in
theorem compare_exact_guardWrite :
    negativeZero.eq Double.zero = true ∧
      (compare negativeZero original decompiled).verdict = .sideEffectMismatch ∧
      ∃ tail, (compare negativeZero original decompiled).detail =
        some ("'out' guard byte 0: original " ++ tail) := by
  have hzero : negativeZero.eq Double.zero = true := by decide
  have hdiffer : CommonDiffer [first] [second] := ⟨0, first, second, 2, rfl, rfl, by decide⟩
  obtain ⟨hverdict, _, hdetail⟩ := compare_exact negativeZero hzero original decompiled
  refine ⟨hzero, (hverdict _).2 (.sideEffect (Or.inr hdiffer) .void .void), ?_⟩
  obtain ⟨position, a, b, i, hfirst, tail, htail⟩ :=
    hdetail .void [first] .void [second] rfl rfl hdiffer
  obtain ⟨ha, hb, hdiffer, hleast, _⟩ := hfirst
  cases position with
  | succ position => cases ha
  | zero =>
      cases ha
      cases hb
      have hi : i ≤ 2 := Nat.le_of_not_lt fun hlt => hleast 2 hlt (by decide)
      have hbelow : ∀ j < 2, ¬ Differ first second j := by decide
      have hi : i = 2 := Nat.le_antisymm hi (Nat.le_of_not_lt fun hlt => hbelow i hlt hdiffer)
      subst hi
      exact ⟨tail, htail⟩

-- The sum of the two words does not fit, so the range covers nothing and the byte counts.
example : (compare Double.zero (.completed .void [⟨0, "out", 2, [0, 0], [0, 1], [⟨1, 2 ^ 64 - 1⟩]⟩])
    (.completed .void [⟨0, "out", 2, [0, 0], [0, 2], [⟨1, 2 ^ 64 - 1⟩]⟩])).verdict =
      .sideEffectMismatch := by decide

end Counterpart
