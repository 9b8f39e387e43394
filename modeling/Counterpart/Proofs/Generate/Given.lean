/-
What a row gives to a parameter.  The three kinds of rows fill their values in different
ways, but what they give is described once, by the parameter and the values of the
parameters that size buffers.
-/
import Counterpart.Generate.Boundary
import Counterpart.Generate.Explicit
import Counterpart.Proofs.Argument.Conforming
import Counterpart.Proofs.Forall

namespace Counterpart

/-- What a row may give to a parameter, under the values of the parameters that size
buffers. -/
inductive Given (config : GeneratorConfig) (provenance : Provenance) (dims : Dims) (p : Param) :
    ArgValue → Prop
  | null (hnull : p.nullable = true ∨ provenance = .explicit ∧ p.ty.isPointer = true) :
      Given config provenance dims p .null
  | dimension {ty : ScalarType} {dim : Nat} (hty : p.ty = .scalar ty)
      (hdim : dims.lookup p.name = some dim) :
      Given config provenance dims p (.scalar (dimensionValue ty dim))
  | scalar {ty : ScalarType} {v : ScalarValue} (hty : p.ty = .scalar ty)
      (hfree : dims.lookup p.name = none) (hv : v.IsOf ty) :
      Given config provenance dims p (.scalar v)
  | buffer {elem : ScalarType} {length : LengthExpr} {isMutable : Bool}
      {values : List ScalarValue} (hty : p.ty = .buffer elem length isMutable)
      (hlength : length.eval? (fun name => dims.lookup name) = some values.length)
      (hcap : values.length ≤ config.maxBufferElems) (hvalues : ∀ v ∈ values, v.IsOf elem) :
      Given config provenance dims p (.buffer elem (values.flatMap (·.toBytes)))
  | cstring {isMutable : Bool} {content : Bytes} (hty : p.ty = .cstring isMutable)
      (hnul : 0 ∉ content) : Given config provenance dims p (.cstring content)
  | bytes {size : Nat} {isMutable : Bool} {content : Bytes} (hty : p.ty = .bytes size isMutable)
      (hsize : content.length = size) : Given config provenance dims p (.bytes content)
  | aggregate {fields : List ScalarType} {values : List ScalarValue}
      (hty : p.ty = .aggregate fields) (hfields : List.Forall₂ ScalarValue.IsOf fields values) :
      Given config provenance dims p (.aggregate values)

theorem resolveLength_eq_ok {param : String} {length : LengthExpr} {dims : Dims} {cap elems : Nat}
    (hlength : resolveLength param length dims cap = .ok elems) :
    length.eval? (fun name => dims.lookup name) = some elems ∧ elems ≤ cap := by
  unfold resolveLength at hlength
  split at hlength
  · cases hlength
  · next n heval =>
      split at hlength
      · cases hlength
      · cases hlength
        exact ⟨heval, by omega⟩

namespace BoundaryRow

variable {row : BoundaryRow} {config : GeneratorConfig} {sig : Signature} {dims : Dims}
  {p : Param}

theorem isOf_plainScalar (row : BoundaryRow) (ty : ScalarType) : (row.plainScalar ty).IsOf ty := by
  cases ty with
  | int width signed => exact ScalarValue.isOf_ofInt _ _
  | f32 => exact ScalarValue.isOf_ofBits _ _
  | f64 => exact ScalarValue.isOf_ofBits _ _

theorem isOf_scalar {ty : ScalarType} {range : Option ValueRange} {v : ScalarValue}
    (hv : row.scalar ty range = .ok v) : v.IsOf ty := by
  unfold scalar at hv
  split at hv
  · dsimp only at hv
    split at hv
    · cases hv
      exact ScalarValue.isOf_ofInt _ _
    · split at hv
      · cases hv
        exact ScalarValue.isOf_ofInt _ _
      · cases hv
  · cases hv
    exact ScalarValue.isOf_ofBits _ _

theorem zero_not_mem_string (row : BoundaryRow) (mid : Nat) : 0 ∉ row.string mid := by
  cases row <;> simp [string, fillByte]

theorem given_value {v : ArgValue} (hv : row.value config dims p = .ok v) :
    Given config .boundary dims p v := by
  unfold value at hv
  split at hv
  · next hnull =>
      cases hv
      exact .null (.inl hnull.2)
  · split at hv
    case h_1 ty hty =>
      split at hv
      · next dim hdim =>
          cases hv
          exact .dimension hty hdim
      · next hfree =>
          obtain ⟨v, hscalar, rfl⟩ := map_eq_ok_iff.1 hv
          exact .scalar hty hfree (isOf_scalar hscalar)
    case h_2 elem length isMutable hty =>
      obtain ⟨elems, hlength, hall⟩ := bind_eq_ok_iff.1 hv
      obtain ⟨heval, hcap⟩ := resolveLength_eq_ok hlength
      cases hall
      rw [← List.flatMap_replicate]
      apply Given.buffer hty
      · rwa [List.length_replicate]
      · rwa [List.length_replicate]
      · intro v hmem
        rw [List.eq_of_mem_replicate hmem]
        exact isOf_plainScalar row elem
    case h_3 isMutable hty =>
      cases hv
      exact .cstring hty (zero_not_mem_string row _)
    case h_4 size isMutable hty =>
      split at hv
      · cases hv
      · cases hv
        exact .bytes hty List.length_replicate
    case h_5 fields hty =>
      cases hv
      apply Given.aggregate hty
      rw [List.forall₂_map_right_iff, List.forall₂_same]
      intro ty _
      exact isOf_plainScalar row ty

/-- A boundary row gives every parameter a value, under dimensions of its own. -/
theorem given_build {values : List ArgValue} (hbuild : row.build config sig = .ok values) :
    ∃ dims, row.dims config sig sig.dimensions = .ok dims ∧
      List.Forall₂ (Given config .boundary dims) sig.params values := by
  obtain ⟨dims, hdims, hvalues⟩ := bind_eq_ok_iff.1 hbuild
  refine ⟨dims, hdims, (mapM_eq_ok_iff.1 hvalues).imp ?_⟩
  intro p v hv
  exact given_value hv

end BoundaryRow

namespace ExplicitRow

variable {row : Nat} {config : GeneratorConfig} {sig : Signature} {dims : Dims} {p : Param}
  {written : ExplicitValue}

theorem isOf_scalar {ty : ScalarType} {v : ScalarValue} (hv : scalar ty written = .ok v) :
    v.IsOf ty := by
  unfold scalar at hv
  split at hv
  case h_1 | h_2 =>
    cases hv
    exact ScalarValue.isOf_ofBits _ _
  case h_3 | h_4 | h_5 | h_6 =>
    cases hv
    exact ScalarValue.isOf_ofDouble _ _
  case h_7 => cases hv

theorem isOf_scalars {elem : ScalarType} {items : List ExplicitValue} {values : List ScalarValue}
    (hvalues : items.mapM (scalar elem) = .ok values) :
    values.length = items.length ∧ ∀ v ∈ values, v.IsOf elem := by
  have hall := mapM_eq_ok_iff.1 hvalues
  refine ⟨hall.length_eq.symm, ?_⟩
  intro v hmem
  obtain ⟨item, _, hv⟩ := exists_mem_of_forall₂ hall hmem
  exact isOf_scalar hv

theorem isOf_fields {fields : List ScalarType} {items : List ExplicitValue}
    {values : List ScalarValue} (hlength : fields.length = items.length)
    (hvalues : (fields.zip items).mapM (fun (ty, item) => scalar ty item) = .ok values) :
    List.Forall₂ ScalarValue.IsOf fields values := by
  refine (forall₂_of_zip hlength (mapM_eq_ok_iff.1 hvalues)).imp ?_
  rintro ty v ⟨item, hv⟩
  exact isOf_scalar hv

/-- What a value other than null comes from. -/
inductive Converted (config : GeneratorConfig) (dims : Dims) (p : Param) :
    ExplicitValue → ArgValue → Prop
  | dimension {ty : ScalarType} {dim : Nat} {written : ExplicitValue} (hty : p.ty = .scalar ty)
      (hdim : dims.lookup p.name = some dim) :
      Converted config dims p written (.scalar (dimensionValue ty dim))
  | scalar {ty : ScalarType} {written : ExplicitValue} {v : ScalarValue} (hty : p.ty = .scalar ty)
      (hfree : dims.lookup p.name = none) (hv : scalar ty written = .ok v) :
      Converted config dims p written (.scalar v)
  | buffer {elem : ScalarType} {length : LengthExpr} {isMutable : Bool}
      {items : List ExplicitValue} {values : List ScalarValue}
      (hty : p.ty = .buffer elem length isMutable)
      (hlength : length.eval? (fun name => dims.lookup name) = some items.length)
      (hcap : items.length ≤ config.maxBufferElems)
      (hvalues : items.mapM (ExplicitRow.scalar elem) = .ok values) :
      Converted config dims p (.list items) (.buffer elem (values.flatMap (·.toBytes)))
  | cstring {isMutable : Bool} {s : String} (hty : p.ty = .cstring isMutable)
      (hnul : 0 ∉ Text.utf8 s.toList) :
      Converted config dims p (.text s) (.cstring (Text.utf8 s.toList))
  | bytes {size : Nat} {isMutable : Bool} {items : List ExplicitValue} {values : List ScalarValue}
      (hty : p.ty = .bytes size isMutable) (hsize : items.length = size)
      (hvalues : items.mapM (ExplicitRow.scalar (.int .w1 false)) = .ok values) :
      Converted config dims p (.list items)
        (.bytes (values.map fun v => UInt8.ofNat v.bits.toNat))
  | aggregate {fields : List ScalarType} {items : List ExplicitValue} {values : List ScalarValue}
      (hty : p.ty = .aggregate fields) (hcount : items.length = fields.length)
      (hvalues : (fields.zip items).mapM (fun (ty, item) => ExplicitRow.scalar ty item) =
        .ok values) :
      Converted config dims p (.list items) (.aggregate values)

theorem list_of_items {param : String} {list : List ExplicitValue}
    (hitems : items param written = .ok list) : written = .list list := by
  unfold items at hitems
  split at hitems
  · cases hitems
    rfl
  · cases hitems

theorem converted_of_value {v : ArgValue} (hv : value row config dims p written = .ok v) :
    Converted config dims p written v := by
  unfold value at hv
  split at hv
  case h_1 ty hty =>
    split at hv
    · next dim hdim =>
        cases hv
        exact .dimension hty hdim
    · next hfree =>
        obtain ⟨v, hscalar, rfl⟩ := map_eq_ok_iff.1 hv
        exact .scalar hty hfree (mapError_eq_ok_iff.1 hscalar)
  case h_2 elem length isMutable hty =>
    obtain ⟨items, hitems, hv⟩ := bind_eq_ok_iff.1 hv
    obtain ⟨elems, hlength, hv⟩ := bind_eq_ok_iff.1 hv
    obtain ⟨heval, hcap⟩ := resolveLength_eq_ok hlength
    rw [list_of_items (mapError_eq_ok_iff.1 hitems)]
    split at hv
    · cases hv
    · next hcount =>
        obtain rfl : elems = items.length := not_not.1 hcount
        obtain ⟨values, hvalues, hall⟩ := bind_eq_ok_iff.1 hv
        cases hall
        exact .buffer hty heval hcap (mapError_eq_ok_iff.1 hvalues)
  case h_3 isMutable hty =>
    split at hv
    · dsimp only at hv
      split at hv
      · cases hv
      · next hnul =>
          cases hv
          exact .cstring hty hnul
    · cases hv
  case h_4 size isMutable hty =>
    obtain ⟨items, hitems, hv⟩ := bind_eq_ok_iff.1 hv
    rw [list_of_items (mapError_eq_ok_iff.1 hitems)]
    split at hv
    · cases hv
    · next hsize =>
        obtain ⟨values, hvalues, hall⟩ := bind_eq_ok_iff.1 hv
        cases hall
        exact .bytes hty (not_not.1 hsize) (mapError_eq_ok_iff.1 hvalues)
  case h_5 fields hty =>
    obtain ⟨items, hitems, hv⟩ := bind_eq_ok_iff.1 hv
    rw [list_of_items (mapError_eq_ok_iff.1 hitems)]
    split at hv
    · cases hv
    · next hcount =>
        obtain ⟨values, hvalues, hall⟩ := bind_eq_ok_iff.1 hv
        cases hall
        exact .aggregate hty (not_not.1 hcount) (mapError_eq_ok_iff.1 hvalues)

theorem Converted.given {v : ArgValue} (hv : Converted config dims p written v) :
    Given config .explicit dims p v := by
  cases hv with
  | dimension hty hdim => exact .dimension hty hdim
  | scalar hty hfree hv => exact .scalar hty hfree (isOf_scalar hv)
  | buffer hty hlength hcap hvalues =>
      obtain ⟨hsame, hof⟩ := isOf_scalars hvalues
      apply Given.buffer hty
      · rwa [hsame]
      · rwa [hsame]
      · exact hof
  | cstring hty hnul => exact .cstring hty hnul
  | bytes hty hsize hvalues =>
      apply Given.bytes hty
      rw [List.length_map, (isOf_scalars hvalues).1, hsize]
  | aggregate hty hcount hvalues => exact .aggregate hty (isOf_fields hcount.symm hvalues)

theorem given_valueOrNull {v : ArgValue}
    (hv : valueOrNull row config dims (p, written) = .ok v) : Given config .explicit dims p v := by
  unfold valueOrNull at hv
  split at hv
  · next hpair =>
      cases hpair
      split at hv
      · next hpointer =>
          cases hv
          exact .null (.inr ⟨rfl, hpointer⟩)
      · cases hv
  · next hpair =>
      cases hpair
      exact (converted_of_value hv).given

/-- An explicit row gives every parameter a value, under the dimensions written in it. -/
theorem given_build {written : List ExplicitValue} {values : List ArgValue}
    (hbuild : build row config sig written = .ok values) :
    List.Forall₂ (Given config .explicit (ExplicitRow.dims sig written)) sig.params values := by
  unfold build at hbuild
  split at hbuild
  · cases hbuild
  · next hlength =>
      refine (forall₂_of_zip (not_not.1 hlength).symm (mapM_eq_ok_iff.1 hbuild)).imp ?_
      rintro p v ⟨written, hv⟩
      exact given_valueOrNull hv

end ExplicitRow

end Counterpart
