/-
Buffers and the parameters that size them.  The values that size buffers are kept apart from
what the parameters can hold: the buffers follow the values, and the parameters pass them
cut to their widths.  Where every value fits its parameter, lengths and parameters agree.
-/
import Counterpart.Proofs.Generate.Conform
import Counterpart.Proofs.Generate.Dimensions
import Counterpart.Proofs.Length.Expr
import Counterpart.Proofs.Scalar.Integer

namespace Counterpart

/-- Whether the type of an integer parameter reaches up to a number. -/
def Param.Reaches (p : Param) (n : Int) : Prop :=
  ∀ width signed, p.ty = .scalar (.int width signed) → n ≤ (BoundaryRow.ends width signed).2

/-- A value that its parameter reaches is passed as it is. -/
theorem toInt_dimensionValue {width : Width} {signed : Bool} {d : Nat}
    (hreach : (d : Int) ≤ (BoundaryRow.ends width signed).2) :
    (dimensionValue (.int width signed) d).toInt = d := by
  have hleast : (BoundaryRow.ends width signed).1 ≤ 0 := by
    cases width <;> cases signed <;> decide
  rw [dimensionValue_eq_ofInt]
  apply (truncation_ofInt width signed d).eq_of_represents
  exact ⟨Int.le_trans hleast (Int.natCast_nonneg d), hreach⟩

namespace Signature

/-- The integer passed for the parameter of a name, as the function sees it. -/
def passed? (sig : Signature) (values : List ArgValue) (name : String) : Option Int := do
  let i ← sig.indexOf? name
  let v ← values[i]?
  (← v.scalar?).toInt

/-- Every buffer has as many elements as its length comes to with the integers passed. -/
def LengthsAgree (sig : Signature) (values : List ArgValue) : Prop :=
  List.Forall₂ (fun p v => ∀ elem length isMutable got content,
    p.ty = .buffer elem length isMutable → v = .buffer got content →
      ∃ count : Nat, content.length = count * got.size ∧
        length.value? (sig.passed? values) = some (count : Int)) sig.params values

variable {sig : Signature} {config : GeneratorConfig} {provenance : Provenance} {dims : Dims}
  {values : List ArgValue}

/-- A parameter that sizes buffers passes the value of its name. -/
theorem passed?_of_given (hvalid : sig.validate = .ok ())
    (hgiven : List.Forall₂ (Given config provenance dims) sig.params values) {name : String}
    {d : Nat} (hname : name ∈ sig.dimensions) (hlookup : dims.lookup name = some d)
    (hreach : ∀ p ∈ sig.params, p.name = name → p.Reaches d) :
    sig.passed? values name = some (d : Int) := by
  obtain ⟨p, hp, rfl, width, signed, hty⟩ := exists_integer_of_mem_dimensions hvalid hname
  obtain ⟨i, hindex, hparam⟩ := exists_indexOf? hvalid hp
  obtain ⟨v, hv, hvalue⟩ := exists_getElem?_of_forall₂ hgiven hparam
  -- The type leaves a dimension or a number of its own, and the latter only to names without
  -- a value.
  have hint : v = .scalar (dimensionValue (.int width signed) d) := by
    cases hvalue with
    | dimension hty' hdim =>
        rw [hty] at hty'
        cases hty'
        rw [hlookup] at hdim
        cases hdim
        rfl
    | scalar _ hfree _ =>
        rw [hlookup] at hfree
        cases hfree
    | null hnull =>
        have hpointer : p.ty.isPointer = true := by
          rcases hnull with hnull | ⟨_, hpointer⟩
          · exact isPointer_of_nullable hvalid hp hnull
          · exact hpointer
        rw [hty] at hpointer
        cases hpointer
    | buffer hty' _ _ _ | cstring hty' _ | bytes hty' _ | aggregate hty' _ =>
        rw [hty] at hty'
        cases hty'
  have hpassed := toInt_dimensionValue (hreach p hp rfl width signed hty)
  rw [passed?, hindex]
  simp [hv, hint, ArgValue.scalar?, hpassed]

theorem lengthsAgree_of_given (hvalid : sig.validate = .ok ())
    (hgiven : List.Forall₂ (Given config provenance dims) sig.params values)
    (hreach : ∀ p ∈ sig.params, p.name ∈ sig.dimensions →
      ∀ d, dims.lookup p.name = some d → p.Reaches d) :
    sig.LengthsAgree values := by
  refine ((List.forall₂_and_left _ _).2 ⟨fun p hp => hp, hgiven⟩).imp ?_
  rintro p v ⟨hp, hv⟩ elem length isMutable got content hty rfl
  cases hv with
  | @buffer _ _ _ written hty' hlength _ hwritten =>
      rw [hty] at hty'
      cases hty'
      refine ⟨written.length, Given.length_flatMap_toBytes hwritten, ?_⟩
      apply LengthExpr.value?_of_eval? hlength
      intro name hname d hlookup
      have hdim : name ∈ sig.dimensions := mem_dimensions.2 ⟨p, hp, by rwa [hty]⟩
      apply passed?_of_given hvalid hgiven hdim hlookup
      rintro q hq rfl
      exact hreach q hq hdim d hlookup

end Signature

/-- How far the value of a dimension may go: to the end of its range, or to a limit if it has
none. -/
def Within (limit : Int) (range : Option ValueRange) (d : Nat) : Prop :=
  match range with
  | none => (d : Int) ≤ max 1 limit
  | some r => r.min ≤ r.max → (d : Int) ≤ max 0 r.max

namespace BoundaryRow

variable {row : BoundaryRow} {config : GeneratorConfig} {sig : Signature}

theorem within_dimension {mid : Nat} {range : Option ValueRange} {d : Nat}
    (hd : row.dimension mid range = .ok d) : Within (asSigned mid) range d := by
  unfold dimension at hd
  dsimp only at hd
  split at hd
  · cases hd
    simp only [Within]
    split <;> omega
  · next r =>
      split at hd
      · next clamped hclamp =>
          cases hd
          intro _
          have hends := ends_of_clamp? hclamp
          omega
      · cases hd

theorem within_dims {names : List String} {dims : Dims}
    (hdims : row.dims config sig names = .ok dims) :
    ∀ name d, dims.lookup name = some d →
      Within (asSigned config.midLen) (sig.rangeOf? name) d := by
  intro name d hlookup
  exact within_dimension (Dims.related_of_lookup (assign_dims hdims) hlookup)

end BoundaryRow

namespace RandomRow

variable {config : GeneratorConfig} {sig : Signature}

theorem ensures_dimension (range : Option ValueRange) (maxDimension : Nat) :
    Ensures (Within (asSigned maxDimension) range) (dimension range maxDimension) := by
  have hlimit := asSigned_lt maxDimension
  cases range with
  | none =>
      simp only [dimension, dimensionEnds]
      apply Ensures.bind (ensures_between_of_span (by omega))
      rintro i ⟨_, hhigh⟩
      apply Ensures.pure
      simp only [Within]
      omega
  | some r =>
      simp only [dimension, dimensionEnds]
      apply Ensures.bind (ensures_between_of_span (by omega))
      rintro i ⟨_, hhigh⟩
      apply Ensures.pure
      intro hends
      omega

theorem ensures_dims (config : GeneratorConfig) (sig : Signature) (names : List String) :
    Ensures (fun dims => ∀ name d, dims.lookup name = some d →
      Within (asSigned config.maxDimension) (sig.rangeOf? name) d) (dims config sig names) := by
  apply (ensures_assign_dims (fun name => ensures_dimension _ _) names).mono
  intro dims hassign name d hlookup
  exact Dims.related_of_lookup hassign hlookup

end RandomRow

namespace Generate

/-- Every value that sizes buffers fits its parameter: those that boundary and random rows
may choose, and those that follow from the rows written by hand. -/
structure Roomy (config : GeneratorConfig) (sig : Signature)
    (explicit : List (List ExplicitValue)) : Prop where
  range : ∀ p ∈ sig.params, p.name ∈ sig.dimensions →
    ∀ r, p.range = some r → p.Reaches r.max
  limits : ∀ p ∈ sig.params, p.name ∈ sig.dimensions → p.range = none →
    p.Reaches (asSigned config.midLen) ∧ p.Reaches (asSigned config.maxDimension)
  written : ∀ row ∈ explicit, ∀ p ∈ sig.params, p.name ∈ sig.dimensions →
    ∀ d, (ExplicitRow.dims sig row).lookup p.name = some d → p.Reaches d

theorem reaches_of_within {sig : Signature} {p : Param} {limit : Int} {d : Nat}
    (hvalid : sig.validate = .ok ()) (hp : p ∈ sig.params) (hdim : p.name ∈ sig.dimensions)
    (hrange : ∀ r, p.range = some r → p.Reaches r.max)
    (hlimit : p.range = none → p.Reaches limit)
    (hwithin : Within limit (sig.rangeOf? p.name) d) : p.Reaches d := by
  intro width signed hty
  rw [Signature.rangeOf?_name hvalid hp] at hwithin
  cases hends : p.range with
  | none =>
      have hone : 1 ≤ (BoundaryRow.ends width signed).2 := by
        cases width <;> cases signed <;> decide
      have hreach := hlimit hends width signed hty
      rw [hends] at hwithin
      simp only [Within] at hwithin
      omega
  | some r =>
      have hreach := hrange r hends width signed hty
      obtain ⟨hordered, hnonneg⟩ := Signature.range_of_validate hvalid hp hends
      have hmin := hnonneg hdim
      rw [hends] at hwithin
      have hle := hwithin hordered
      omega

/-- Where the values that size buffers fit their parameters, every buffer of every set has as
many elements as its length comes to with the integers passed in the same set. -/
theorem setsFrom_lengthsAgree (stream : Stream) (config : GeneratorConfig) (sig : Signature)
    (explicit : List (List ExplicitValue)) (count : Nat) (sets : List ArgumentSet)
    (hvalid : sig.validate = .ok ()) (hroomy : Roomy config sig explicit)
    (hsets : setsFrom stream config sig explicit count = .ok sets) :
    ∀ set ∈ sets, sig.LengthsAgree set.values := by
  intro set hset
  rcases mem_setsFrom hsets hset with
    ⟨_, row, hbuild⟩ | ⟨_, i, row, hrow, hbuild⟩ | ⟨_, s, s', hbuild⟩
  · obtain ⟨dims, hdims, hgiven⟩ := BoundaryRow.given_build hbuild
    apply Signature.lengthsAgree_of_given hvalid hgiven
    intro p hp hdim d hlookup
    exact reaches_of_within hvalid hp hdim (hroomy.range p hp hdim)
      (fun hfree => (hroomy.limits p hp hdim hfree).1)
      (BoundaryRow.within_dims hdims p.name d hlookup)
  · apply Signature.lengthsAgree_of_given hvalid (ExplicitRow.given_build hbuild)
    exact hroomy.written row hrow
  · obtain ⟨dims, hdims, hgiven⟩ :=
      (RandomRow.ensures_build (RandomRow.ensures_dims config sig sig.dimensions)).result _ _ _
        hbuild
    apply Signature.lengthsAgree_of_given hvalid hgiven
    intro p hp hdim d hlookup
    exact reaches_of_within hvalid hp hdim (hroomy.range p hp hdim)
      (fun hfree => (hroomy.limits p hp hdim hfree).2) (hdims p.name d hlookup)

namespace Assorted

/-- The only parameter that sizes a buffer. -/
theorem eq_of_mem_dimensions : ∀ p ∈ sig.params, p.name ∈ sig.dimensions →
    p = ⟨"n", .scalar (.int .w1 false), some ⟨0, 2⟩, false, []⟩ := by
  decide +kernel

theorem lookup_dims : ∀ row ∈ explicit, (ExplicitRow.dims sig row).lookup "n" = some 1 := by
  decide +kernel

theorem roomy : Roomy config sig explicit := by
  constructor
  · intro p hp hdim r hr width signed hty
    rw [eq_of_mem_dimensions p hp hdim] at hr hty
    cases hr
    cases hty
    decide
  · intro p hp hdim hfree
    rw [eq_of_mem_dimensions p hp hdim] at hfree
    cases hfree
  · intro row hrow p hp hdim d hlookup width signed hty
    rw [eq_of_mem_dimensions p hp hdim] at hlookup hty
    rw [lookup_dims row hrow] at hlookup
    cases hlookup
    cases hty
    decide

end Assorted

open Assorted in
theorem setsFrom_lengthsAgree_assorted :
    Roomy config sig explicit ∧ ∃ sets, sets.length = 9 ∧
      setsFrom stream config sig explicit 9 = .ok sets ∧
      ∀ set ∈ sets, sig.LengthsAgree set.values := by
  obtain ⟨sets, hlength, hsets⟩ := exists_sets
  exact ⟨roomy, sets, hlength, hsets,
    setsFrom_lengthsAgree stream config sig explicit 9 sets valid_sig roomy hsets⟩

namespace Narrow

/-- A parameter of one byte, and the buffer it sizes. -/
def sig : Signature :=
  ⟨"f",
    [⟨"n", .scalar (.int .w1 false), none, false, []⟩,
      ⟨"buf", .buffer (.int .w1 false) (.param "n") false, none, false, []⟩],
    .void⟩

def case : ReferenceCase := ⟨sig, .arithmetic, [], "f.c", []⟩

/-- Middle-sized buffers have one element more than a byte can count. -/
def config : GeneratorConfig :=
  { GeneratorConfig.default with midLen := 256 }

/-- What the parameters get in the third row: nothing is left of 256 in one byte. -/
def values : List ArgValue :=
  [.scalar ⟨.int .w1 false, 0⟩, .buffer (.int .w1 false) (List.replicate 256 0xff)]

end Narrow

open Narrow in
/-- A value that does not fit is cut when it is passed, while the buffer keeps its length. -/
theorem setsFor_not_lengthsAgree_narrow :
    sig.validate = .ok () ∧
      (∃ sets, setsFor config case 0 3 = .ok sets ∧ ⟨2, .boundary, values⟩ ∈ sets) ∧
      ¬ sig.LengthsAgree values := by
  refine ⟨by rfl, ?_, ?_⟩
  · have hlast : (setsFor config case 0 3).toOption.map (·.getLast?) =
        some (some ⟨2, .boundary, values⟩) := by
      decide +kernel
    obtain ⟨sets, hsets, hlast⟩ := Option.map_eq_some_iff.1 hlast
    exact ⟨sets, toOption_eq_some_iff.1 hsets, List.mem_of_getLast? hlast⟩
  · intro hagree
    cases hagree with
    | cons _ hrest =>
        cases hrest with
        | cons hbuffer _ =>
            obtain ⟨count, hcount, hvalue⟩ := hbuffer _ _ _ _ _ rfl rfl
            have hpassed : (LengthExpr.param "n").value? (sig.passed? values) = some 0 := by rfl
            rw [hpassed] at hvalue
            have hnone : count = 0 := by
              have hvalue := Option.some.inj hvalue
              omega
            rw [hnone, List.length_replicate, Nat.zero_mul] at hcount
            cases hcount

end Generate

end Counterpart
