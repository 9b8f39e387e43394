/-
Parameters with a range.  What boundary and random rows pass for them is the truncation of a
number in the range, and the range itself wherever its ends fit the type; the two rows at the
ends of the types pass the ends of the ranges.
-/
import Counterpart.Proofs.Generate.Conform
import Counterpart.Proofs.Generate.Dimensions
import Counterpart.Proofs.Scalar.Integer

namespace Counterpart

/-- How a number of an integer type stands to a range: it is the truncation of a number inside,
and lies inside itself if the type has both ends. -/
structure KeptIn (r : ValueRange) (width : Width) (signed : Bool) (v : ScalarValue) : Prop where
  isOf : v.IsOf (.int width signed)
  truncated : ∃ k, r.min ≤ k ∧ k ≤ r.max ∧ Truncation width signed k v.toInt
  inside : width.Represents signed r.min → width.Represents signed r.max →
    r.min ≤ v.toInt ∧ v.toInt ≤ r.max

/-- A word that is congruent to a number inside the range is enough, as no type is wider. -/
theorem keptIn_ofInt {r : ValueRange} (width : Width) (signed : Bool) {i k : Int}
    (hlow : r.min ≤ k) (hhigh : k ≤ r.max) (hword : (2 ^ 64 : Int) ∣ k - i) :
    KeptIn r width signed (ScalarValue.ofInt (.int width signed) i) := by
  have htruncation : Truncation width signed k (ScalarValue.ofInt (.int width signed) i).toInt := by
    obtain ⟨hrepresents, hcongruent⟩ := truncation_ofInt width signed i
    refine ⟨hrepresents, ?_⟩
    have hwidth : (2 ^ width.bits : Int) ∣ 2 ^ 64 := by
      exact_mod_cast Nat.pow_dvd_pow 2 width.bits_le
    have hsum := Int.dvd_add (Int.dvd_trans hwidth hword) hcongruent
    rwa [show k - i + (i - (ScalarValue.ofInt (.int width signed) i).toInt) =
      k - (ScalarValue.ofInt (.int width signed) i).toInt by omega] at hsum
  refine ⟨ScalarValue.isOf_ofInt _ i, ⟨k, hlow, hhigh, htruncation⟩, ?_⟩
  intro hmin hmax
  have hk : width.Represents signed k :=
    ⟨Int.le_trans hmin.1 hlow, Int.le_trans hhigh hmax.2⟩
  rw [htruncation.eq_of_represents hk]
  exact ⟨hlow, hhigh⟩

/-- A number inside the range is passed itself, cut to the type. -/
theorem keptIn_ofInt_self {r : ValueRange} (width : Width) (signed : Bool) {i : Int}
    (hlow : r.min ≤ i) (hhigh : i ≤ r.max) :
    KeptIn r width signed (ScalarValue.ofInt (.int width signed) i) := by
  apply keptIn_ofInt width signed hlow hhigh
  rw [Int.sub_self]
  exact Int.dvd_zero _

/-- The value of a parameter keeps to its range, if it has one. -/
def Param.Keeps (p : Param) (v : ArgValue) : Prop :=
  ∀ r, p.range = some r → ∃ width signed x,
    p.ty = .scalar (.int width signed) ∧ v = .scalar x ∧ KeptIn r width signed x

/-- A value for a name that sizes buffers lies in the range of its parameter. -/
def Signature.InRange (sig : Signature) (name : String) (d : Nat) : Prop :=
  name ∈ sig.dimensions → ∀ r, sig.rangeOf? name = some r → r.min ≤ d ∧ (d : Int) ≤ r.max

section

variable {config : GeneratorConfig} {sig : Signature} {dims : Dims} {p : Param} {r : ValueRange}
  {width : Width} {signed : Bool}

theorem Signature.keptIn_dimensionValue (hvalid : sig.validate = .ok ())
    (hassign : Dims.Assign sig.InRange sig.dimensions dims) (hp : p ∈ sig.params)
    (hrange : p.range = some r) {d : Nat} (hlookup : dims.lookup p.name = some d)
    (width : Width) (signed : Bool) :
    KeptIn r width signed (dimensionValue (.int width signed) d) := by
  have hname : p.name ∈ sig.dimensions := by
    apply (Dims.isSome_lookup_iff hassign).1
    rw [hlookup]
    rfl
  have hr : sig.rangeOf? p.name = some r := by
    rw [rangeOf?_name hvalid hp, hrange]
  obtain ⟨hlow, hhigh⟩ := Dims.related_of_lookup hassign hlookup hname r hr
  rw [dimensionValue_eq_ofInt]
  exact keptIn_ofInt_self width signed hlow hhigh

/-- A parameter with a range is an integer, and so never null. -/
theorem Signature.integer_of_range (hvalid : sig.validate = .ok ()) (hp : p ∈ sig.params)
    (hrange : p.range = some r) :
    p.nullable = false ∧ ∃ width signed, p.ty = .scalar (.int width signed) := by
  obtain ⟨width, signed, hty⟩ := exists_integer_of_range hvalid hp hrange
  refine ⟨?_, width, signed, hty⟩
  cases hnullable : p.nullable with
  | false => rfl
  | true =>
      have hpointer := isPointer_of_nullable hvalid hp hnullable
      rw [hty] at hpointer
      cases hpointer

namespace BoundaryRow

variable {row : BoundaryRow}

theorem exists_clamped_of_scalar {v : ScalarValue}
    (hv : row.scalar (.int width signed) (some r) = .ok v) :
    ∃ clamped, v = ScalarValue.ofInt (.int width signed) clamped ∧
      r.clamp? (row.integer signed (ends width signed).1 (ends width signed).2) = some clamped := by
  simp only [scalar] at hv
  split at hv
  · next clamped hclamp =>
      cases hv
      exact ⟨clamped, rfl, hclamp⟩
  · cases hv

theorem keptIn_scalar {v : ScalarValue} (hv : row.scalar (.int width signed) (some r) = .ok v) :
    KeptIn r width signed v := by
  obtain ⟨clamped, rfl, hclamp⟩ := exists_clamped_of_scalar hv
  obtain ⟨hlow, hhigh⟩ := ends_of_clamp? hclamp
  exact keptIn_ofInt_self width signed hlow hhigh

theorem assign_inRange (hvalid : sig.validate = .ok ())
    (hdims : row.dims config sig sig.dimensions = .ok dims) :
    Dims.Assign sig.InRange sig.dimensions dims := by
  refine (assign_dims hdims).imp ?_
  rintro name entry ⟨hentry, hvalue⟩
  refine ⟨hentry, ?_⟩
  intro hname r hr
  rw [hr] at hvalue
  exact ends_of_dimension (Signature.ends_of_rangeOf? hvalid hname hr).1 hvalue

/-- The value of an integer parameter with a range is that of its name, or one of the row that
is moved into the range. -/
theorem scalar_of_value (hvalid : sig.validate = .ok ()) (hp : p ∈ sig.params)
    (hrange : p.range = some r) (hty : p.ty = .scalar (.int width signed)) {v : ArgValue}
    (hv : row.value config dims p = .ok v) :
    (∃ d, dims.lookup p.name = some d ∧ v = .scalar (dimensionValue (.int width signed) d)) ∨
      ∃ x, row.scalar (.int width signed) (some r) = .ok x ∧ v = .scalar x := by
  have hnullable := (Signature.integer_of_range hvalid hp hrange).1
  rw [value, if_neg (by simp [hnullable])] at hv
  simp only [hty, hrange] at hv
  split at hv
  · next d hlookup =>
      cases hv
      exact .inl ⟨d, hlookup, rfl⟩
  · obtain ⟨x, hx, rfl⟩ := map_eq_ok_iff.1 hv
    exact .inr ⟨x, hx, rfl⟩

theorem keeps_of_value (hvalid : sig.validate = .ok ())
    (hassign : Dims.Assign sig.InRange sig.dimensions dims) (hp : p ∈ sig.params) {v : ArgValue}
    (hv : row.value config dims p = .ok v) : p.Keeps v := by
  intro r hrange
  obtain ⟨width, signed, hty⟩ := Signature.exists_integer_of_range hvalid hp hrange
  rcases scalar_of_value hvalid hp hrange hty hv with ⟨d, hlookup, rfl⟩ | ⟨x, hx, rfl⟩
  · exact ⟨width, signed, _, hty, rfl,
      Signature.keptIn_dimensionValue hvalid hassign hp hrange hlookup width signed⟩
  · exact ⟨width, signed, x, hty, rfl, keptIn_scalar hx⟩

/-- Every value of a boundary row keeps to the range of its parameter. -/
theorem keeps_of_build (hvalid : sig.validate = .ok ()) {values : List ArgValue}
    (hbuild : row.build config sig = .ok values) :
    List.Forall₂ Param.Keeps sig.params values := by
  obtain ⟨dims, hdims, hvalues⟩ := bind_eq_ok_iff.1 hbuild
  have hassign := assign_inRange hvalid hdims
  refine ((List.forall₂_and_left _ _).2 ⟨fun p hp => hp, mapM_eq_ok_iff.1 hvalues⟩).imp ?_
  rintro p v ⟨hp, hv⟩
  exact keeps_of_value hvalid hassign hp hv

end BoundaryRow

namespace RandomRow

theorem ensures_keptIn_scalar (r : ValueRange) (width : Width) (signed : Bool) :
    Ensures (KeptIn r width signed) (scalar (.int width signed) (some r)) := by
  unfold scalar
  apply Ensures.after
  intro atEnd
  split
  · apply Ensures.after
    intro row
    exact Ensures.settled fun v hv => BoundaryRow.keptIn_scalar hv
  · apply (ensures_between r.min r.max).bind
    rintro i ⟨k, hlow, hhigh, hword⟩
    exact Ensures.pure (keptIn_ofInt width signed hlow hhigh hword)

theorem ensures_inRange (hvalid : sig.validate = .ok ()) (maxDimension : Nat) (name : String) :
    Ensures (sig.InRange name) (dimension (sig.rangeOf? name) maxDimension) := by
  by_cases hname : name ∈ sig.dimensions
  · cases hrange : sig.rangeOf? name with
    | none =>
        constructor
        intro s d s' _ _ r hr
        rw [hrange] at hr
        cases hr
    | some r =>
        obtain ⟨hnonneg, hordered⟩ := Signature.ends_of_rangeOf? hvalid hname hrange
        apply (ensures_dimension_ends hnonneg hordered maxDimension).mono
        intro d hd _ r' hr'
        rw [hrange] at hr'
        cases hr'
        exact hd
  · exact ⟨fun _ _ _ _ hmem => absurd hmem hname⟩

theorem ensures_keeps_value (hvalid : sig.validate = .ok ())
    (hassign : Dims.Assign sig.InRange sig.dimensions dims) (p : Param) :
    Ensures (fun v => p ∈ sig.params → p.Keeps v) (value config dims p) := by
  by_cases hp : p ∈ sig.params
  · cases hrange : p.range with
    | none =>
        constructor
        intro s v s' _ _ r hr
        rw [hrange] at hr
        cases hr
    | some r =>
        obtain ⟨hnullable, width, signed, hty⟩ := Signature.integer_of_range hvalid hp hrange
        have hkept : ∀ x, KeptIn r width signed x → p ∈ sig.params → p.Keeps (.scalar x) := by
          intro x hx _ r' hr'
          rw [hrange] at hr'
          cases hr'
          exact ⟨width, signed, x, hty, rfl, hx⟩
        unfold value
        simp only [hnullable, hty, hrange, Bool.false_eq_true, if_false]
        split
        · next d hlookup =>
            apply Ensures.pure
            apply hkept
            exact Signature.keptIn_dimensionValue hvalid hassign hp hrange hlookup width signed
        · apply (ensures_keptIn_scalar r width signed).bind
          intro x hx
          exact Ensures.pure (hkept x hx)
  · exact ⟨fun _ _ _ _ hmem => absurd hmem hp⟩

/-- Every value of a random row keeps to the range of its parameter, whatever the stream. -/
theorem keeps_of_build (hvalid : sig.validate = .ok ()) {s s' : Stream} {values : List ArgValue}
    (hbuild : (build config sig).run s = .ok (values, s')) :
    List.Forall₂ Param.Keeps sig.params values := by
  have hdims : Ensures (Dims.Assign sig.InRange sig.dimensions)
      (RandomRow.dims config sig sig.dimensions) :=
    ensures_assign_dims (ensures_inRange hvalid config.maxDimension) sig.dimensions
  have hrow : Ensures (fun values => List.Forall₂ (fun p v => p ∈ sig.params → p.Keeps v)
      sig.params values) (build config sig) := by
    apply hdims.bind
    intro dims hassign
    exact Ensures.mapM (ensures_keeps_value hvalid hassign)
  refine ((List.forall₂_and_left _ _).2 ⟨fun p hp => hp, hrow.result _ _ _ hbuild⟩).imp ?_
  rintro p v ⟨hp, hv⟩
  exact hv hp

end RandomRow

end

/-- A parameter that sizes no buffer, and whose type has both ends of its range, is passed one
of them. -/
def Signature.PassesEnd (sig : Signature) (chosen : ValueRange → Int) (p : Param) (v : ArgValue) :
    Prop :=
  p.name ∉ sig.dimensions → ∀ r width signed, p.range = some r →
    p.ty = .scalar (.int width signed) →
    width.Represents signed r.min → width.Represents signed r.max →
    ∃ x : ScalarValue, v = .scalar x ∧ x.IsOf (.int width signed) ∧ x.toInt = chosen r

/-- A row passes the end to which its number is moved in every range that the type has. -/
theorem BoundaryRow.passesEnd_of_build {row : BoundaryRow} {config : GeneratorConfig}
    {sig : Signature} {chosen : ValueRange → Int} (hvalid : sig.validate = .ok ())
    (hchosen : ∀ (r : ValueRange) width signed, r.min ≤ r.max → width.Represents signed r.min →
      width.Represents signed r.max → width.Represents signed (chosen r) ∧
      r.clamp? (row.integer signed (ends width signed).1 (ends width signed).2) = some (chosen r))
    {values : List ArgValue} (hbuild : row.build config sig = .ok values) :
    List.Forall₂ (sig.PassesEnd chosen) sig.params values := by
  obtain ⟨dims, hdims, hvalues⟩ := bind_eq_ok_iff.1 hbuild
  refine ((List.forall₂_and_left _ _).2 ⟨fun p hp => hp, mapM_eq_ok_iff.1 hvalues⟩).imp ?_
  rintro p v ⟨hp, hv⟩ hname r width signed hrange hty hmin hmax
  obtain ⟨hordered, _⟩ := Signature.range_of_validate hvalid hp hrange
  obtain ⟨hrepresents, hclamp⟩ := hchosen r width signed hordered hmin hmax
  rcases scalar_of_value hvalid hp hrange hty hv with ⟨d, hlookup, _⟩ | ⟨x, hx, rfl⟩
  · have hsome : (dims.lookup p.name).isSome = true := by
      rw [hlookup]
      rfl
    exact absurd ((Dims.isSome_lookup_iff (assign_dims hdims)).1 hsome) hname
  · obtain ⟨clamped, rfl, hclamped⟩ := exists_clamped_of_scalar hx
    rw [hclamp] at hclamped
    cases hclamped
    exact ⟨_, rfl, ScalarValue.isOf_ofInt _ _,
      (truncation_ofInt width signed _).eq_of_represents hrepresents⟩

namespace Generate

/-- How generation for a signature treats the ranges of its parameters. -/
structure HonoursRanges (config : GeneratorConfig) (sig : Signature) : Prop where
  boundary : ∀ (row : BoundaryRow) values, row.build config sig = .ok values →
    List.Forall₂ Param.Keeps sig.params values
  random : ∀ (s s' : Stream) values, (RandomRow.build config sig).run s = .ok (values, s') →
    List.Forall₂ Param.Keeps sig.params values
  generated : ∀ stream explicit count sets, setsFrom stream config sig explicit count = .ok sets →
    ∀ set ∈ sets, set.provenance ≠ .explicit → List.Forall₂ Param.Keeps sig.params set.values
  least : ∀ values, BoundaryRow.min.build config sig = .ok values →
    List.Forall₂ (sig.PassesEnd ValueRange.min) sig.params values
  greatest : ∀ values, BoundaryRow.max.build config sig = .ok values →
    List.Forall₂ (sig.PassesEnd ValueRange.max) sig.params values

/-- Rows that are not written by hand keep to the ranges of a valid signature, and the rows at
the ends of the types pass the ends of the ranges. -/
theorem honoursRanges_of_validate (config : GeneratorConfig) (sig : Signature)
    (hvalid : sig.validate = .ok ()) : HonoursRanges config sig := by
  refine ⟨?boundary, ?random, ?generated, ?least, ?greatest⟩
  case boundary => exact fun row values hbuild => BoundaryRow.keeps_of_build hvalid hbuild
  case random => exact fun s s' values hbuild => RandomRow.keeps_of_build hvalid hbuild
  case generated =>
    intro stream explicit count sets hsets set hset hwritten
    rcases mem_setsFrom hsets hset with ⟨_, row, hbuild⟩ | ⟨hexplicit, _⟩ | ⟨_, s, s', hbuild⟩
    · exact BoundaryRow.keeps_of_build hvalid hbuild
    · exact absurd hexplicit hwritten
    · exact RandomRow.keeps_of_build hvalid hbuild
  case least =>
    intro values hbuild
    refine BoundaryRow.passesEnd_of_build hvalid ?_ hbuild
    intro r width signed hordered hmin hmax
    refine ⟨hmin, clamp?_eq_some_iff.2 ⟨hordered, ?_⟩⟩
    have hlow := hmin.1
    simp only [BoundaryRow.integer]
    omega
  case greatest =>
    intro values hbuild
    refine BoundaryRow.passesEnd_of_build hvalid ?_ hbuild
    intro r width signed hordered hmin hmax
    refine ⟨hmax, clamp?_eq_some_iff.2 ⟨hordered, ?_⟩⟩
    have hhigh := hmax.2
    simp only [BoundaryRow.integer]
    omega

namespace Bounded

/-- A parameter with a range around zero, one with a range that its type does not reach, and one
that sizes a buffer. -/
def sig : Signature :=
  ⟨"f",
    [⟨"k", .scalar (.int .w2 true), some ⟨-5, 300⟩, false, []⟩,
      ⟨"t", .scalar (.int .w1 false), some ⟨250, 260⟩, false, []⟩,
      ⟨"n", .scalar (.int .w4 false), some ⟨2, 3⟩, false, []⟩,
      ⟨"buf", .buffer (.int .w1 false) (.param "n") false, none, false, []⟩],
    .void⟩

/-- What the parameters get in the row at the least values. -/
def values : List ArgValue :=
  [.scalar ⟨.int .w2 true, 0xfffb⟩, .scalar ⟨.int .w1 false, 250⟩, .scalar ⟨.int .w4 false, 3⟩,
    .buffer (.int .w1 false) [0, 0, 0]]

theorem build_min : BoundaryRow.min.build .default sig = .ok values := by
  rfl

end Bounded

open Bounded in
theorem honoursRanges_of_validate_bounded :
    BoundaryRow.min.build .default sig = .ok values ∧
      List.Forall₂ Param.Keeps sig.params values ∧
      List.Forall₂ (sig.PassesEnd ValueRange.min) sig.params values := by
  have hranges := honoursRanges_of_validate .default sig (by rfl)
  exact ⟨build_min, hranges.boundary .min values build_min, hranges.least values build_min⟩

end Generate

end Counterpart
