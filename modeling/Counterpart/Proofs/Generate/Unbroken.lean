/-
Generation from a valid signature never breaks off.  Every range that a number is moved into or
drawn from is in order, every position that is looked up exists, and what is generated can be
shown.  Rows that are not written by hand fail only where a buffer has too many elements.
-/
import Counterpart.Proofs.Generate.Conform
import Counterpart.Proofs.Generate.Dimensions
import Counterpart.Proofs.Length.Overflow

namespace Counterpart

/-- The failures for which a size is the reason, under the values of the parameters that size
buffers: an object above the cap, or a length with a sum or product of known values that
sixty-four bits do not hold. -/
inductive Exceeds (config : GeneratorConfig) (sig : Signature) (dims : Dims) : InputError → Prop
  | elements {p : Param} {elem : ScalarType} {length : LengthExpr} {isMutable : Bool} {count : Nat}
      (hp : p ∈ sig.params) (hty : p.ty = .buffer elem length isMutable)
      (hcount : length.count? (fun name => dims.lookup name) = some count)
      (hcap : config.maxBufferElems < count) :
      Exceeds config sig dims (.bufferTooLarge p.name count config.maxBufferElems)
  | size {p : Param} {size : Nat} {isMutable : Bool} (hp : p ∈ sig.params)
      (hty : p.ty = .bytes size isMutable) (hcap : config.maxBufferElems < size) :
      Exceeds config sig dims (.bufferTooLarge p.name size config.maxBufferElems)
  | length {p : Param} {elem : ScalarType} {length : LengthExpr} {isMutable : Bool}
      (hp : p ∈ sig.params) (hty : p.ty = .buffer elem length isMutable)
      (hknown : ∀ name ∈ length.names, (dims.lookup name).isSome = true)
      (hbeyond : length.Overflows fun name => dims.lookup name) :
      Exceeds config sig dims (.lengthOverflow p.name)

theorem resolveLength_eq_error {param : String} {length : LengthExpr} {dims : Dims} {cap : Nat}
    {e : InputError} (herror : resolveLength param length dims cap = .error e) :
    (length.eval? (fun name => dims.lookup name) = none ∧ e = .lengthOverflow param) ∨
      ∃ count, length.eval? (fun name => dims.lookup name) = some count ∧ cap < count ∧
        e = .bufferTooLarge param count cap := by
  unfold resolveLength at herror
  split at herror
  · next hnone =>
      cases herror
      exact .inl ⟨hnone, rfl⟩
  · next count heval =>
      by_cases hcap : cap < count
      · rw [if_pos hcap] at herror
        cases herror
        exact .inr ⟨count, heval, hcap, rfl⟩
      · rw [if_neg hcap] at herror
        cases herror

section

variable {config : GeneratorConfig} {sig : Signature} {dims : Dims} {p : Param} {e : InputError}
  {R : String → Nat → Prop}

theorem Exceeds.ne_emptyRange (hexceeds : Exceeds config sig dims e) : e ≠ .emptyRange := by
  cases hexceeds with
  | elements | size | length => exact InputError.noConfusion

/-- Every name in a length has a value, so a length without a count has overflowed. -/
theorem exceeds_of_resolveLength {elem : ScalarType} {length : LengthExpr} {isMutable : Bool}
    (hassign : Dims.Assign R sig.dimensions dims) (hp : p ∈ sig.params)
    (hty : p.ty = .buffer elem length isMutable)
    (herror : resolveLength p.name length dims config.maxBufferElems = .error e) :
    Exceeds config sig dims e := by
  rcases resolveLength_eq_error herror with ⟨hnone, rfl⟩ | ⟨count, heval, hcap, rfl⟩
  · have hknown : ∀ name ∈ length.names, (dims.lookup name).isSome = true := by
      intro name hname
      apply (Dims.isSome_lookup_iff hassign).2
      exact Signature.mem_dimensions.2 ⟨p, hp, by rwa [hty]⟩
    exact .length hp hty hknown ((LengthExpr.eval?_eq_none_iff hknown).1 hnone)
  · exact .elements hp hty (LengthExpr.count?_of_eval? heval) hcap

namespace BoundaryRow

variable {row : BoundaryRow}

theorem exists_scalar {ty : ScalarType} {range : Option ValueRange}
    (hordered : ∀ r, range = some r → r.min ≤ r.max) : ∃ v, row.scalar ty range = .ok v := by
  cases ty with
  | int width signed =>
      cases range with
      | none => exact ⟨_, rfl⟩
      | some r =>
          simp only [scalar]
          rw [clamp?_eq_some_iff.2 ⟨hordered r rfl, rfl⟩]
          exact ⟨_, rfl⟩
  | f32 => exact ⟨_, rfl⟩
  | f64 => exact ⟨_, rfl⟩

theorem exceeds_of_value (hvalid : sig.validate = .ok ())
    (hassign : Dims.Assign R sig.dimensions dims) (hp : p ∈ sig.params)
    (herror : row.value config dims p = .error e) : Exceeds config sig dims e := by
  unfold value at herror
  split at herror
  · cases herror
  · split at herror
    case h_1 ty hty =>
      split at herror
      · cases herror
      · obtain ⟨v, hv⟩ : ∃ v, row.scalar ty p.range = .ok v :=
          exists_scalar fun r hr => (Signature.range_of_validate hvalid hp hr).1
        rw [hv] at herror
        cases herror
    case h_2 elem length isMutable hty =>
      rcases bind_eq_error_iff.1 herror with hlength | ⟨elems, _, hbuffer⟩
      · exact exceeds_of_resolveLength hassign hp hty hlength
      · cases hbuffer
    case h_3 isMutable hty => cases herror
    case h_4 size isMutable hty =>
      by_cases hcap : config.maxBufferElems < size
      · rw [if_pos hcap] at herror
        cases herror
        exact .size hp hty hcap
      · rw [if_neg hcap] at herror
        cases herror
    case h_5 fields hty => cases herror

/-- A boundary row has its values for all names and fails only over sizes. -/
theorem exceeds_of_build (hvalid : sig.validate = .ok ())
    (herror : row.build config sig = .error e) :
    ∃ dims, row.dims config sig sig.dimensions = .ok dims ∧ Exceeds config sig dims e := by
  obtain ⟨dims, hdims⟩ : ∃ dims, row.dims config sig sig.dimensions = .ok dims :=
    exists_dims fun name hname r hr => (Signature.ends_of_rangeOf? hvalid hname hr).2
  refine ⟨dims, hdims, ?_⟩
  rcases bind_eq_error_iff.1 herror with hfirst | ⟨dims', hdims', hvalues⟩
  · rw [hdims] at hfirst
    cases hfirst
  · rw [hdims] at hdims'
    cases hdims'
    obtain ⟨p, hp, hvalue⟩ := exists_error_of_mapM hvalues
    exact exceeds_of_value hvalid (assign_dims hdims) hp hvalue

end BoundaryRow

namespace RandomRow

theorem failsAs_scalar {E : InputError → Prop} (ty : ScalarType) {range : Option ValueRange}
    (hordered : ∀ r, range = some r → r.min ≤ r.max) : FailsAs E (scalar ty range) := by
  unfold scalar
  split
  · next width signed r =>
      apply (FailsAs.draw _).after
      intro atEnd
      split
      · apply (FailsAs.draw _).after
        intro row
        apply FailsAs.settled
        intro e herror
        obtain ⟨v, hv⟩ : ∃ v, row.scalar (.int width signed) (some r) = .ok v :=
          BoundaryRow.exists_scalar hordered
        rw [hv] at herror
        cases herror
      · apply (failsAs_between (hordered r rfl)).after
        intro i
        exact FailsAs.pure _
  · exact FailsAs.draw _

theorem failsAs_orNull {E : InputError → Prop} {m : Sample ArgValue} (hm : FailsAs E m) :
    FailsAs E
      (if p.nullable = true then do
        if ← draw (Draw.chance 1 8) then pure .null else m
      else m) := by
  split
  · apply (FailsAs.draw _).after
    intro toNull
    split
    · exact FailsAs.pure _
    · exact hm
  · exact hm

theorem failsAs_value (hvalid : sig.validate = .ok ())
    (hassign : Dims.Assign R sig.dimensions dims) (hp : p ∈ sig.params) :
    FailsAs (Exceeds config sig dims) (value config dims p) := by
  unfold value
  dsimp only
  apply failsAs_orNull
  split
  case h_1 ty hty =>
    split
    · exact FailsAs.pure _
    · apply (failsAs_scalar ty fun r hr => (Signature.range_of_validate hvalid hp hr).1).after
      intro v
      exact FailsAs.pure _
  case h_2 elem length isMutable hty =>
    apply (FailsAs.settled fun e => exceeds_of_resolveLength hassign hp hty).after
    intro elems
    apply (FailsAs.draw _).after
    intro values
    exact FailsAs.pure _
  case h_3 isMutable hty =>
    apply (FailsAs.draw _).after
    intro content
    exact FailsAs.pure _
  case h_4 size isMutable hty =>
    split
    · next hcap =>
        apply FailsAs.settled
        intro e herror
        cases herror
        exact .size hp hty hcap
    · apply (FailsAs.draw _).after
      intro content
      exact FailsAs.pure _
  case h_5 fields hty =>
    apply (FailsAs.draw _).after
    intro values
    exact FailsAs.pure _

/-- A random row draws its values for all names and fails only over sizes. -/
theorem exceeds_of_build (hvalid : sig.validate = .ok ()) (hmax : config.maxDimension < 2 ^ 63)
    {s : Stream} (herror : (build config sig).run s = .error e) :
    ∃ dims s', (RandomRow.dims config sig sig.dimensions).run s = .ok (dims, s') ∧
      Exceeds config sig dims e := by
  rcases bind_eq_error_iff.1 herror with hdims | ⟨⟨dims, s'⟩, hdims, hvalues⟩
  · have hnever : FailsAs (fun _ => False) (RandomRow.dims config sig sig.dimensions) :=
      failsAs_dims hmax _
    exact (hnever.error s e hdims).elim
  · have hassign : Dims.Assign (fun _ _ => True) sig.dimensions dims :=
      (ensures_assign_dims (fun _ => ⟨fun _ _ _ _ => trivial⟩) _).result _ _ _ hdims
    refine ⟨dims, s', hdims, ?_⟩
    exact (FailsAs.mapM fun p hp => failsAs_value hvalid hassign hp).error s' e hvalues

end RandomRow

namespace ExplicitRow

theorem ne_emptyRange_of_inRow {α : Type} {row : Nat} {result : Except ExplicitFault α}
    (herror : result.mapError (.explicitRow row) = .error e) : e ≠ .emptyRange := by
  obtain ⟨fault, _, rfl⟩ := mapError_eq_error_iff.1 herror
  exact InputError.noConfusion

theorem ne_emptyRange_of_resolveLength {param : String} {length : LengthExpr} {cap : Nat}
    (herror : resolveLength param length dims cap = .error e) : e ≠ .emptyRange := by
  rcases resolveLength_eq_error herror with ⟨_, rfl⟩ | ⟨count, _, _, rfl⟩
  · exact InputError.noConfusion
  · exact InputError.noConfusion

theorem ne_emptyRange_of_value {row : Nat} {written : ExplicitValue}
    (herror : value row config dims p written = .error e) : e ≠ .emptyRange := by
  unfold value at herror
  split at herror
  case h_1 ty hty =>
    split at herror
    · cases herror
    · exact ne_emptyRange_of_inRow (map_eq_error_iff.1 herror)
  case h_2 elem length isMutable hty =>
    rcases bind_eq_error_iff.1 herror with hitems | ⟨items, _, herror⟩
    · exact ne_emptyRange_of_inRow hitems
    · rcases bind_eq_error_iff.1 herror with hlength | ⟨elems, _, herror⟩
      · exact ne_emptyRange_of_resolveLength hlength
      · split at herror
        · cases herror
          exact InputError.noConfusion
        · rcases bind_eq_error_iff.1 herror with hvalues | ⟨values, _, hbuffer⟩
          · exact ne_emptyRange_of_inRow hvalues
          · cases hbuffer
  case h_3 isMutable hty =>
    split at herror
    · dsimp only at herror
      split at herror
      · cases herror
        exact InputError.noConfusion
      · cases herror
    · cases herror
      exact InputError.noConfusion
  case h_4 size isMutable hty =>
    rcases bind_eq_error_iff.1 herror with hitems | ⟨items, _, herror⟩
    · exact ne_emptyRange_of_inRow hitems
    · split at herror
      · cases herror
        exact InputError.noConfusion
      · rcases bind_eq_error_iff.1 herror with hvalues | ⟨values, _, hbytes⟩
        · exact ne_emptyRange_of_inRow hvalues
        · cases hbytes
  case h_5 fields hty =>
    rcases bind_eq_error_iff.1 herror with hitems | ⟨items, _, herror⟩
    · exact ne_emptyRange_of_inRow hitems
    · split at herror
      · cases herror
        exact InputError.noConfusion
      · rcases bind_eq_error_iff.1 herror with hvalues | ⟨values, _, haggregate⟩
        · exact ne_emptyRange_of_inRow hvalues
        · cases haggregate

theorem ne_emptyRange_of_build {row : Nat} {written : List ExplicitValue}
    (herror : build row config sig written = .error e) : e ≠ .emptyRange := by
  unfold build at herror
  split at herror
  · cases herror
    exact InputError.noConfusion
  · obtain ⟨⟨p, item⟩, _, herror⟩ := exists_error_of_mapM herror
    unfold valueOrNull at herror
    split at herror
    · split at herror
      · cases herror
      · cases herror
        exact InputError.noConfusion
    · exact ne_emptyRange_of_value herror

end ExplicitRow

end

namespace Generate

section

variable {config : GeneratorConfig} {sig : Signature} {e : InputError}

theorem exists_error_of_fixedSets {ρ : Type} {provenance : Provenance}
    {build : ρ → Except InputError (List ArgValue)} {count index : Nat} {rows : List ρ}
    (herror : fixedSets provenance build count index rows = .error e) :
    ∃ row ∈ rows, build row = .error e := by
  induction count generalizing index rows with
  | zero => cases herror
  | succ count ih =>
      cases rows with
      | nil => cases herror
      | cons row rows =>
          rcases bind_eq_error_iff.1 herror with hrow | ⟨values, _, herror⟩
          · exact ⟨row, List.mem_cons_self, hrow⟩
          · rcases bind_eq_error_iff.1 herror with hrest | ⟨rest, _, hpure⟩
            · obtain ⟨row', hmem, hbuild⟩ := ih hrest
              exact ⟨row', List.mem_cons_of_mem _ hmem, hbuild⟩
            · cases hpure

theorem exists_error_of_randomSets {count index : Nat} {stream : Stream}
    (herror : randomSets config sig count index stream = .error e) :
    ∃ s, (RandomRow.build config sig).run s = .error e := by
  induction count generalizing index stream with
  | zero => cases herror
  | succ count ih =>
      rcases bind_eq_error_iff.1 herror with hrow | ⟨⟨values, stream'⟩, _, herror⟩
      · exact ⟨stream, hrow⟩
      · rcases bind_eq_error_iff.1 herror with hrest | ⟨rest, _, hpure⟩
        · exact ih hrest
        · cases hpure

/-- Generation fails with the error of a row of one of the three kinds. -/
theorem exists_error_of_setsFrom {stream : Stream} {explicit : List (List ExplicitValue)}
    {count : Nat} (herror : setsFrom stream config sig explicit count = .error e) :
    (∃ row : BoundaryRow, row.build config sig = .error e) ∨
    (∃ i, ∃ row ∈ explicit, ExplicitRow.build i config sig row = .error e) ∨
    ∃ s, (RandomRow.build config sig).run s = .error e := by
  rcases bind_eq_error_iff.1 herror with hboundary | ⟨boundary, _, herror⟩
  · obtain ⟨row, _, hbuild⟩ := exists_error_of_fixedSets hboundary
    exact .inl ⟨row, hbuild⟩
  · rcases bind_eq_error_iff.1 herror with hwritten | ⟨written, _, herror⟩
    · obtain ⟨⟨i, row⟩, hmem, hbuild⟩ := exists_error_of_fixedSets hwritten
      exact .inr (.inl ⟨i, row, (List.of_mem_zip hmem).2, hbuild⟩)
    · rcases bind_eq_error_iff.1 herror with hrandom | ⟨random, _, hpure⟩
      · exact .inr (.inr (exists_error_of_randomSets hrandom))
      · cases hpure

end

/-- What generation for a signature never runs into, and what it may fail with. -/
structure Unbroken (config : GeneratorConfig) (sig : Signature) : Prop where
  /-- No number is moved into or drawn from a range whose ends are out of order. -/
  ordered : ∀ stream explicit count,
    setsFrom stream config sig explicit count ≠ .error .emptyRange
  /-- The position drawn for a boundary row is one of theirs. -/
  picked : ∀ s : Stream,
    ((Draw.below64 BoundaryRow.basic.length).run s).1 < BoundaryRow.basic.length
  /-- In a row with a value for each parameter, every name has a value at its position. -/
  placed : ∀ written : List ExplicitValue, written.length = sig.params.length →
    ∀ name ∈ sig.dimensions, ∃ i, sig.indexOf? name = some i ∧ i < written.length
  /-- Every set that is generated can be shown. -/
  shown : ∀ stream explicit count sets, setsFrom stream config sig explicit count = .ok sets →
    ∀ set ∈ sets, ∃ text, set.text? = some text
  boundary : ∀ (row : BoundaryRow) e, row.build config sig = .error e →
    ∃ dims, row.dims config sig sig.dimensions = .ok dims ∧ Exceeds config sig dims e
  random : ∀ (s : Stream) e, (RandomRow.build config sig).run s = .error e →
    ∃ dims s', (RandomRow.dims config sig sig.dimensions).run s = .ok (dims, s') ∧
      Exceeds config sig dims e

/-- For a valid signature, and a limit that has no sign when it is read with one, generation
never breaks off: not for any stream, any rows written by hand and any number of sets. -/
theorem unbroken_of_validate (config : GeneratorConfig) (sig : Signature)
    (hvalid : sig.validate = .ok ()) (hmax : config.maxDimension < 2 ^ 63) :
    Unbroken config sig := by
  have hboundary : ∀ (row : BoundaryRow) e, row.build config sig = .error e →
      ∃ dims, row.dims config sig sig.dimensions = .ok dims ∧ Exceeds config sig dims e :=
    fun row e herror => BoundaryRow.exceeds_of_build hvalid herror
  have hrandom : ∀ (s : Stream) e, (RandomRow.build config sig).run s = .error e →
      ∃ dims s', (RandomRow.dims config sig sig.dimensions).run s = .ok (dims, s') ∧
        Exceeds config sig dims e :=
    fun s e herror => RandomRow.exceeds_of_build hvalid hmax herror
  refine ⟨?ordered, ?picked, ?placed, ?shown, hboundary, hrandom⟩
  case ordered =>
    intro stream explicit count herror
    rcases exists_error_of_setsFrom herror with ⟨row, hbuild⟩ | ⟨i, row, _, hbuild⟩ | ⟨s, hbuild⟩
    · obtain ⟨dims, _, hexceeds⟩ := hboundary row _ hbuild
      exact hexceeds.ne_emptyRange rfl
    · exact ExplicitRow.ne_emptyRange_of_build hbuild rfl
    · obtain ⟨dims, s', _, hexceeds⟩ := hrandom s _ hbuild
      exact hexceeds.ne_emptyRange rfl
  case picked => exact (Draw.always_below64 (by decide)).result
  case placed =>
    intro written hlength name hname
    obtain ⟨p, hp, rfl, _⟩ := Signature.exists_integer_of_mem_dimensions hvalid hname
    obtain ⟨i, hindex, hparam⟩ := Signature.exists_indexOf? hvalid hp
    refine ⟨i, hindex, ?_⟩
    rw [hlength]
    exact (List.getElem?_eq_some_iff.1 hparam).1
  case shown =>
    intro stream explicit count sets hsets set hset
    exact ArgumentSet.exists_text? (conforms_of_mem_setsFrom hvalid hsets hset)

namespace Square

/-- A buffer whose length is the square of a parameter that has one value only, a great one. -/
def sig : Signature :=
  ⟨"f",
    [⟨"n", .scalar (.int .w8 false), some ⟨2 ^ 62, 2 ^ 62⟩, false, []⟩,
      ⟨"plane", .buffer (.int .w1 false) (.mul (.param "n") (.param "n")) false, none, false, []⟩],
    .void⟩

theorem valid_sig : sig.validate = .ok () := by
  rfl

theorem build_zero :
    BoundaryRow.zero.build .default sig = .error (.lengthOverflow "plane") := by
  rfl

end Square

open Square in
theorem unbroken_of_validate_square :
    (∃ dims, BoundaryRow.zero.dims .default sig sig.dimensions = .ok dims ∧
      Exceeds .default sig dims (.lengthOverflow "plane")) ∧
    (∃ sets, sets.length = 9 ∧
      setsFrom Assorted.stream Assorted.config Assorted.sig Assorted.explicit 9 = .ok sets ∧
      ∀ set ∈ sets, ∃ text, set.text? = some text) := by
  constructor
  · have hsquare := unbroken_of_validate .default sig valid_sig (by decide)
    exact hsquare.boundary .zero _ build_zero
  · have hassorted :=
      unbroken_of_validate Assorted.config Assorted.sig Assorted.valid_sig (by decide)
    obtain ⟨sets, hlength, hsets⟩ := Assorted.exists_sets
    exact ⟨sets, hlength, hsets, hassorted.shown _ _ _ sets hsets⟩

end Generate

end Counterpart
