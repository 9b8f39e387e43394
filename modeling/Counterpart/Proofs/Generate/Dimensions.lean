/-
The values of the parameters that size buffers.  A row gives a value to every name, in the
order of the names, and where the ranges are in order no name is without one.
-/
import Counterpart.Proofs.Generate.Sample
import Counterpart.Proofs.Signature.Valid

namespace Counterpart

namespace Dims

/-- The names in order, each with a value that is related to it. -/
def Assign (R : String → Nat → Prop) (names : List String) (dims : Dims) : Prop :=
  List.Forall₂ (fun name entry => entry.1 = name ∧ R name entry.2) names dims

variable {R : String → Nat → Prop} {names : List String} {dims : Dims} {name : String}

theorem related_of_lookup (hassign : Assign R names dims) {d : Nat}
    (hlookup : dims.lookup name = some d) : R name d := by
  induction hassign with
  | nil => simp at hlookup
  | @cons first entry names dims hfirst _ ih =>
      obtain ⟨rfl, hvalue⟩ := hfirst
      by_cases hname : name = entry.1
      · rw [hname, List.lookup_cons_self] at hlookup
        cases hlookup
        rwa [hname]
      · rw [List.lookup_cons, beq_eq_false_iff_ne.2 hname] at hlookup
        exact ih hlookup

theorem isSome_lookup_iff (hassign : Assign R names dims) :
    (dims.lookup name).isSome = true ↔ name ∈ names := by
  induction hassign with
  | nil => simp
  | @cons first entry names dims hfirst _ ih =>
      obtain ⟨rfl, _⟩ := hfirst
      by_cases hname : name = entry.1
      · rw [hname, List.lookup_cons_self]
        simp
      · rw [List.lookup_cons, beq_eq_false_iff_ne.2 hname, ih, List.mem_cons]
        exact (or_iff_right hname).symm

end Dims

theorem clamp?_eq_some_iff {r : ValueRange} {value clamped : Int} :
    r.clamp? value = some clamped ↔
      r.min ≤ r.max ∧ clamped = max r.min (min value r.max) := by
  unfold ValueRange.clamp?
  by_cases hends : r.max < r.min
  · rw [if_pos hends]
    simp only [reduceCtorEq, false_iff, not_and]
    intro hordered
    omega
  · rw [if_neg hends]
    by_cases hlow : value < r.min
    · rw [if_pos hlow, Option.some.injEq]
      omega
    · rw [if_neg hlow]
      by_cases hhigh : r.max < value
      · rw [if_pos hhigh, Option.some.injEq]
        omega
      · rw [if_neg hhigh, Option.some.injEq]
        omega

/-- A number brought into a range lies in it. -/
theorem ends_of_clamp? {r : ValueRange} {value clamped : Int}
    (hclamp : r.clamp? value = some clamped) : r.min ≤ clamped ∧ clamped ≤ r.max := by
  obtain ⟨hordered, rfl⟩ := clamp?_eq_some_iff.1 hclamp
  omega

namespace Signature

variable {sig : Signature} {name : String} {r : ValueRange}

theorem exists_param_of_rangeOf? (hrange : sig.rangeOf? name = some r) :
    ∃ p ∈ sig.params, p.name = name ∧ p.range = some r := by
  obtain ⟨p, hfind, hr⟩ := Option.bind_eq_some_iff.1 hrange
  exact ⟨p, List.mem_of_find?_eq_some hfind, by simpa using List.find?_some hfind, hr⟩

theorem exists_indexOf? (hvalid : sig.validate = .ok ()) {p : Param} (hp : p ∈ sig.params) :
    ∃ i, sig.indexOf? p.name = some i ∧ sig.params[i]? = some p := by
  have hfind := find?_name hvalid hp
  rw [Signature.find?, List.find?_eq_bind_findIdx?_getElem?] at hfind
  exact Option.bind_eq_some_iff.1 hfind

theorem rangeOf?_name (hvalid : sig.validate = .ok ()) {p : Param} (hp : p ∈ sig.params) :
    sig.rangeOf? p.name = p.range := by
  rw [rangeOf?, find?_name hvalid hp, Option.bind_some]

/-- The range of a name in the length of a buffer is in order and starts at zero or above. -/
theorem ends_of_rangeOf? (hvalid : sig.validate = .ok ()) (hname : name ∈ sig.dimensions)
    (hrange : sig.rangeOf? name = some r) : 0 ≤ r.min ∧ r.min ≤ r.max := by
  obtain ⟨p, hp, rfl, hr⟩ := exists_param_of_rangeOf? hrange
  obtain ⟨hordered, hnonneg⟩ := range_of_validate hvalid hp hr
  exact ⟨hnonneg hname, hordered⟩

end Signature

theorem asSigned_lt (n : Nat) : asSigned n < 2 ^ 63 :=
  BitVec.toInt_lt

theorem asSigned_of_lt {n : Nat} (hn : n < 2 ^ 63) : asSigned n = n := by
  have hword : (BitVec.ofNat 64 n).toNat = n := by
    rw [BitVec.toNat_ofNat]
    exact Nat.mod_eq_of_lt (by omega)
  rw [asSigned, BitVec.toInt_eq_toNat_of_lt (by omega), hword]

theorem dimensionValue_eq_ofInt (ty : ScalarType) (d : Nat) :
    dimensionValue ty d = ScalarValue.ofInt ty d := by
  rw [dimensionValue, ScalarValue.ofInt, BitVec.ofInt_natCast]

namespace BoundaryRow

variable {row : BoundaryRow} {config : GeneratorConfig} {sig : Signature} {mid : Nat}

theorem assign_dims {names : List String} {dims : Dims}
    (hdims : row.dims config sig names = .ok dims) :
    Dims.Assign (fun name d => row.dimension config.midLen (sig.rangeOf? name) = .ok d) names
      dims := by
  induction names generalizing dims with
  | nil =>
      cases hdims
      exact .nil
  | cons first names ih =>
      obtain ⟨value, hvalue, hdims⟩ := bind_eq_ok_iff.1 hdims
      obtain ⟨rest, hrest, hall⟩ := bind_eq_ok_iff.1 hdims
      cases hall
      exact .cons ⟨rfl, hvalue⟩ (ih hrest)

/-- The value of a name lies in its range. -/
theorem ends_of_dimension {r : ValueRange} {d : Nat} (hnonneg : 0 ≤ r.min)
    (hd : row.dimension mid (some r) = .ok d) : r.min ≤ d ∧ (d : Int) ≤ r.max := by
  simp only [dimension] at hd
  split at hd
  · next clamped hclamp =>
      cases hd
      have hends := ends_of_clamp? hclamp
      omega
  · cases hd

theorem exists_dimension {range : Option ValueRange}
    (hordered : ∀ r, range = some r → r.min ≤ r.max) : ∃ d, row.dimension mid range = .ok d := by
  cases range with
  | none => exact ⟨_, rfl⟩
  | some r =>
      simp only [dimension]
      rw [clamp?_eq_some_iff.2 ⟨hordered r rfl, rfl⟩]
      exact ⟨_, rfl⟩

theorem exists_dims {names : List String}
    (hordered : ∀ name ∈ names, ∀ r, sig.rangeOf? name = some r → r.min ≤ r.max) :
    ∃ dims, row.dims config sig names = .ok dims := by
  induction names with
  | nil => exact ⟨[], rfl⟩
  | cons first names ih =>
      have hfirst := hordered first List.mem_cons_self
      obtain ⟨d, hd⟩ : ∃ d, row.dimension config.midLen (sig.rangeOf? first) = .ok d :=
        exists_dimension hfirst
      obtain ⟨dims, hdims⟩ := ih fun name hname => hordered name (List.mem_cons_of_mem _ hname)
      exact ⟨_, bind_eq_ok_iff.2 ⟨d, hd, bind_eq_ok_iff.2 ⟨dims, hdims, rfl⟩⟩⟩

end BoundaryRow

namespace RandomRow

variable {config : GeneratorConfig} {sig : Signature}

theorem ensures_between (low high : Int) :
    Ensures (fun i => ∃ k, low ≤ k ∧ k ≤ high ∧ (2 ^ 64 : Int) ∣ k - i) (between low high) := by
  unfold between
  by_cases hends : low ≤ high
  · apply (Ensures.draw (Draw.always_between_congruent hends)).bind
    rintro drawn ⟨i, k, rfl, hk⟩
    exact Ensures.pure ⟨k, hk⟩
  · apply (Ensures.draw (P := (· = none)) ⟨fun s => ?_⟩).bind
    · rintro drawn rfl
      exact Ensures.settled (by simp)
    · rw [Draw.between, if_pos (Int.not_le.1 hends)]
      rfl

theorem failsAs_between {E : InputError → Prop} {low high : Int} (hends : low ≤ high) :
    FailsAs E (between low high) := by
  unfold between
  apply (FailsAs.draw _).bind (Ensures.draw (Draw.always_between_congruent hends))
  rintro drawn ⟨i, k, rfl, _⟩
  exact FailsAs.pure i

/-- With fewer numbers between the ends than a word has patterns, what is drawn lies between
them. -/
theorem ensures_between_of_span {low high : Int} (hspan : high - low + 1 < 2 ^ 64) :
    Ensures (fun i => low ≤ i ∧ i ≤ high) (between low high) := by
  unfold between
  apply (Ensures.draw (Draw.always_between hspan)).bind
  intro drawn hdrawn
  split
  · next i => exact Ensures.pure (hdrawn i rfl)
  · exact Ensures.settled (by simp)

theorem ensures_assign_dims {R : String → Nat → Prop}
    (hvalue : ∀ name, Ensures (R name) (dimension (sig.rangeOf? name) config.maxDimension))
    (names : List String) : Ensures (Dims.Assign R names) (dims config sig names) := by
  induction names with
  | nil => exact Ensures.pure .nil
  | cons first names ih =>
      apply (hvalue first).bind
      intro d hd
      apply ih.bind
      intro rest hrest
      exact Ensures.pure (.cons ⟨rfl, hd⟩ hrest)

/-- The ends of a draw for a name are in order, as long as the limit has no sign. -/
theorem dimensionEnds_ordered (range : Option ValueRange) {maxDimension : Nat}
    (hmax : maxDimension < 2 ^ 63) :
    (dimensionEnds range maxDimension).1 ≤ (dimensionEnds range maxDimension).2 := by
  unfold dimensionEnds
  rw [asSigned_of_lt hmax]
  cases range with
  | none => exact Int.natCast_nonneg maxDimension
  | some r => exact Int.le_max_left _ _

theorem failsAs_dims {E : InputError → Prop} (hmax : config.maxDimension < 2 ^ 63)
    (names : List String) : FailsAs E (dims config sig names) := by
  induction names with
  | nil => exact FailsAs.pure []
  | cons first names ih =>
      have hfirst : FailsAs E (dimension (sig.rangeOf? first) config.maxDimension) := by
        unfold dimension
        apply (failsAs_between (dimensionEnds_ordered _ hmax)).after
        intro i
        exact FailsAs.pure i.toNat
      apply hfirst.after
      intro d
      apply ih.after
      intro rest
      exact FailsAs.pure _

/-- The value of a name lies in its range, if that is in order and starts at zero or above. -/
theorem ensures_dimension_ends {r : ValueRange} (hnonneg : 0 ≤ r.min) (hordered : r.min ≤ r.max)
    (maxDimension : Nat) :
    Ensures (fun (d : Nat) => r.min ≤ d ∧ (d : Int) ≤ r.max) (dimension (some r) maxDimension) := by
  simp only [dimension, dimensionEnds]
  apply (ensures_between_of_span (by omega)).bind
  rintro i ⟨hlow, hhigh⟩
  apply Ensures.pure
  omega

end RandomRow

end Counterpart
