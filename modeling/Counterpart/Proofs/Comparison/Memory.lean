/-
Where the memory of two executions differs.  The search over positions and bytes finds the
first observed difference and misses none, for lists of different lengths, bytes of
different lengths and ranges that overlap or reach into the guard.
-/
import Counterpart.Comparison.Compare

namespace Counterpart

namespace ByteRange

/-- A range covers the positions from its first one up to its end, the sum of the offset and the
length as a word of sixty-four bits. -/
def Covers (r : ByteRange) (index : Nat) : Prop :=
  r.offset ≤ index ∧ index < (r.offset + r.length) % 2 ^ 64

variable {r : ByteRange} {index : Nat}

theorem contains_iff : r.contains index = true ↔ r.Covers index := by
  rw [contains, finish, Bool.and_eq_true, decide_eq_true_iff, decide_eq_true_iff, Covers]

/-- Where the sum fits, the range covers as many positions as its length says. -/
theorem covers_iff_of_fits (hfits : r.offset + r.length < 2 ^ 64) :
    r.Covers index ↔ r.offset ≤ index ∧ index < r.offset + r.length := by
  rw [Covers, Nat.mod_eq_of_lt hfits]

/-- Where the sum of two words does not fit, the range ends in front of its first position and
covers none. -/
theorem not_covers_of_overflow (hoffset : r.offset < 2 ^ 64) (hlength : r.length < 2 ^ 64)
    (hover : 2 ^ 64 ≤ r.offset + r.length) : ¬ r.Covers index := by
  rintro ⟨hfirst, hlast⟩
  have hwrapped : (r.offset + r.length) % 2 ^ 64 = r.offset + r.length - 2 ^ 64 := by
    rw [Nat.mod_eq_sub_mod hover, Nat.mod_eq_of_lt (by omega)]
  omega

end ByteRange

/-- A byte takes part if it is guard or none of the ranges covers it. -/
def Snapshot.Observed (s : Snapshot) (index : Nat) : Prop :=
  s.logicalLen ≤ index ∨ ∀ r ∈ s.ignore, ¬ r.Covers index

theorem Snapshot.isObserved_iff (s : Snapshot) (index : Nat) :
    s.isObserved index = true ↔ s.Observed index := by
  simp [isObserved, Observed, ← ByteRange.contains_iff]

instance (s : Snapshot) (index : Nat) : Decidable (s.Observed index) :=
  decidable_of_iff _ (s.isObserved_iff index)

namespace Comparison

/-- An observed byte at which two snapshots differ.  A missing byte differs from any byte,
and beyond both ends nothing does. -/
def Differ (a b : Snapshot) (i : Nat) : Prop :=
  a.Observed i ∧ a.after[i]? ≠ b.after[i]?

instance (a b : Snapshot) (i : Nat) : Decidable (Differ a b i) :=
  inferInstanceAs (Decidable (_ ∧ _))

theorem Differ.lt {a b : Snapshot} {i : Nat} (hdiffer : Differ a b i) :
    i < max a.after.length b.after.length := by
  apply Nat.lt_of_not_le
  intro hle
  apply hdiffer.2
  rw [List.getElem?_eq_none (by omega), List.getElem?_eq_none (by omega)]

theorem observed_and_bne_iff (a b : Snapshot) (i : Nat) :
    (a.isObserved i && a.after[i]? != b.after[i]?) = true ↔ Differ a b i := by
  rw [Bool.and_eq_true, a.isObserved_iff, bne_iff_ne]
  exact Iff.rfl

theorem firstByte?_eq_some_iff {a b : Snapshot} {i : Nat} :
    firstByte? a b = some i ↔ Differ a b i ∧ ∀ j < i, ¬ Differ a b j := by
  rw [firstByte?, List.find?_range_eq_some, observed_and_bne_iff, List.mem_range]
  constructor
  · rintro ⟨hdiffer, _, hleast⟩
    refine ⟨hdiffer, ?_⟩
    intro j hj hbefore
    have hnot := hleast j hj
    rw [(observed_and_bne_iff a b j).2 hbefore] at hnot
    cases hnot
  · rintro ⟨hdiffer, hleast⟩
    refine ⟨hdiffer, hdiffer.lt, ?_⟩
    intro j hj
    rw [Bool.not_eq_true', ← Bool.not_eq_true, observed_and_bne_iff]
    exact hleast j hj

theorem firstByte?_eq_none_iff {a b : Snapshot} :
    firstByte? a b = none ↔ ∀ i, ¬ Differ a b i := by
  simp only [firstByte?, List.find?_eq_none, List.mem_range, observed_and_bne_iff]
  constructor
  · intro hnone i hdiffer
    exact hnone i hdiffer.lt hdiffer
  · intro hnone i _
    exact hnone i

variable {original decompiled : List Snapshot}

/-- The first position at which two snapshots differ, and the least byte at which they do. -/
structure FirstByte (original decompiled : List Snapshot) (position : Nat) (a b : Snapshot)
    (i : Nat) : Prop where
  original_at : original[position]? = some a
  decompiled_at : decompiled[position]? = some b
  differ : Differ a b i
  least : ∀ j < i, ¬ Differ a b j
  first : ∀ earlier < position, ∀ a' b', original[earlier]? = some a' →
    decompiled[earlier]? = some b' → ∀ j, ¬ Differ a' b' j

/-- Behind snapshots that agree, the first difference is that of the lists behind them. -/
theorem FirstByte.cons {position : Nat} {a b : Snapshot} {i : Nat}
    (hfirst : FirstByte original decompiled position a b i) {a' b' : Snapshot}
    (hsame : ∀ j, ¬ Differ a' b' j) :
    FirstByte (a' :: original) (b' :: decompiled) (position + 1) a b i where
  original_at := hfirst.original_at
  decompiled_at := hfirst.decompiled_at
  differ := hfirst.differ
  least := hfirst.least
  first := by
    intro earlier hearlier c d hc hd
    cases earlier with
    | zero =>
        cases hc
        cases hd
        exact hsame
    | succ earlier => exact hfirst.first earlier (Nat.lt_of_succ_lt_succ hearlier) c d hc hd

/-- Some observed byte differs at a common position. -/
def CommonDiffer (original decompiled : List Snapshot) : Prop :=
  ∃ (position : Nat) (a b : Snapshot) (i : Nat),
    original[position]? = some a ∧ decompiled[position]? = some b ∧ Differ a b i

theorem commonDetail?_eq_some {detail : String}
    (hdetail : commonDetail? original decompiled = some detail) :
    ∃ position a b i, FirstByte original decompiled position a b i ∧
      detail = byteDetail a b i := by
  induction original generalizing decompiled with
  | nil => cases hdetail
  | cons a original ih =>
      cases decompiled with
      | nil => cases hdetail
      | cons b decompiled =>
          simp only [commonDetail?] at hdetail
          cases hbyte : firstByte? a b with
          | some i =>
              rw [hbyte] at hdetail
              cases hdetail
              obtain ⟨hdiffer, hleast⟩ := firstByte?_eq_some_iff.1 hbyte
              exact ⟨0, a, b, i, ⟨rfl, rfl, hdiffer, hleast, nofun⟩, rfl⟩
          | none =>
              rw [hbyte] at hdetail
              obtain ⟨position, c, d, i, hfirst, hsentence⟩ := ih hdetail
              have hsame := firstByte?_eq_none_iff.1 hbyte
              exact ⟨position + 1, c, d, i, hfirst.cons hsame, hsentence⟩

/-- The search passes a position only if no observed byte differs there. -/
theorem not_differ_of_commonDetail?_eq_none (hnone : commonDetail? original decompiled = none)
    {position : Nat} {a b : Snapshot} (ha : original[position]? = some a)
    (hb : decompiled[position]? = some b) (i : Nat) : ¬ Differ a b i := by
  induction original generalizing decompiled position with
  | nil => cases ha
  | cons c original ih =>
      cases decompiled with
      | nil => cases hb
      | cons d decompiled =>
          simp only [commonDetail?] at hnone
          cases hbyte : firstByte? c d with
          | some j =>
              rw [hbyte] at hnone
              cases hnone
          | none =>
              rw [hbyte] at hnone
              cases position with
              | zero =>
                  cases ha
                  cases hb
                  exact firstByte?_eq_none_iff.1 hbyte i
              | succ position => exact ih hnone ha hb

theorem commonDetail?_eq_none_iff :
    commonDetail? original decompiled = none ↔ ¬ CommonDiffer original decompiled := by
  constructor
  · rintro hnone ⟨position, a, b, i, ha, hb, hdiffer⟩
    exact not_differ_of_commonDetail?_eq_none hnone ha hb i hdiffer
  · intro hsame
    cases hdetail : commonDetail? original decompiled with
    | none => rfl
    | some detail =>
        obtain ⟨position, a, b, i, hfirst, _⟩ := commonDetail?_eq_some hdetail
        exact absurd ⟨position, a, b, i, hfirst.original_at, hfirst.decompiled_at, hfirst.differ⟩
          hsame

/-- The lists differ in length, or some observed byte differs at a common position. -/
def MemoryDiffers (original decompiled : List Snapshot) : Prop :=
  original.length ≠ decompiled.length ∨ CommonDiffer original decompiled

theorem memoryDetail?_eq_none_iff :
    memoryDetail? original decompiled = none ↔ ¬ MemoryDiffers original decompiled := by
  rw [MemoryDiffers, not_or, Decidable.not_not, ← commonDetail?_eq_none_iff, memoryDetail?]
  cases commonDetail? original decompiled with
  | some detail => simp
  | none => simp

end Comparison

end Counterpart
