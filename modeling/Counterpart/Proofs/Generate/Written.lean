/-
Rows written by hand are passed as they are written.  The parameters that size buffers follow
the lists: all lists for one name have one size, and that is the value of the name, whatever
was written for it.
-/
import Counterpart.Proofs.Argument.Elements
import Counterpart.Proofs.Generate.Conform
import Counterpart.Proofs.Generate.Dimensions
import Counterpart.Proofs.Scalar.Integer
import Counterpart.Proofs.Text.Utf8

namespace Counterpart

namespace ExplicitValue

/-- The integer that is written. -/
def integer? : ExplicitValue → Option Int
  | int i => some i
  | uint n => some n
  | _ => none

/-- The number of floating point that is written; an integer is brought to the nearest one. -/
def double? : ExplicitValue → Option Double
  | float x => some x
  | int i => some (Double.ofInt i)
  | _ => none

end ExplicitValue

/-- A value of an integer type has the pattern of a number modulo the power of the type. -/
structure ScalarValue.Reduces (v : ScalarValue) (width : Width) (signed : Bool) (k : Int) :
    Prop where
  ty : v.ty = .int width signed
  bits : (v.bits.toNat : Int) = k % (2 ^ width.bits : Nat)

theorem ScalarValue.reduces_ofInt (width : Width) (signed : Bool) (k : Int) :
    (ofInt (.int width signed) k).Reduces width signed k :=
  ⟨rfl, toNat_bits_ofInt (.int width signed) k⟩

/-- The value of a type for which an item stands. -/
inductive Stands : ScalarType → ExplicitValue → ScalarValue → Prop
  | integer {width : Width} {signed : Bool} {item : ExplicitValue} {k : Int} {v : ScalarValue}
      (hitem : item.integer? = some k) (hv : v.Reduces width signed k) :
      Stands (.int width signed) item v
  | single {item : ExplicitValue} {x : Double} {v : ScalarValue} (hitem : item.double? = some x)
      (hty : v.ty = .f32) (hbits : v.bits = x.toSingle.setWidth 64) : Stands .f32 item v
  | double {item : ExplicitValue} {x : Double} {v : ScalarValue} (hitem : item.double? = some x)
      (hty : v.ty = .f64) (hbits : v.bits = x.bits) : Stands .f64 item v

theorem stands_ofDouble_single {item : ExplicitValue} {x : Double} (hitem : item.double? = some x) :
    Stands .f32 item (ScalarValue.ofDouble .f32 x) := by
  refine .single hitem rfl ?_
  apply BitVec.eq_of_toNat_eq
  rw [ScalarValue.ofDouble, ScalarValue.toNat_bits_ofBits]
  have hsingle : (x.toSingle.setWidth 64).toNat = x.toSingle.toNat := by
    rw [BitVec.toNat_setWidth]
    exact Nat.mod_eq_of_lt (Nat.lt_trans x.toSingle.isLt (by decide))
  rw [hsingle]
  exact Nat.mod_eq_of_lt x.toSingle.isLt

theorem stands_ofDouble_double {item : ExplicitValue} {x : Double} (hitem : item.double? = some x) :
    Stands .f64 item (ScalarValue.ofDouble .f64 x) := by
  refine .double hitem rfl ?_
  apply BitVec.eq_of_toNat_eq
  rw [ScalarValue.ofDouble, ScalarValue.toNat_bits_ofBits]
  exact Nat.mod_eq_of_lt x.bits.isLt

namespace ExplicitRow

/-- A list of so many items stands for a buffer whose length is just the name. -/
def Sizes (pairs : List (Param × ExplicitValue)) (name : String) (count : Nat) : Prop :=
  ∃ p elem isMutable items, (p, .list items) ∈ pairs ∧
    p.ty = .buffer elem (.param name) isMutable ∧ items.length = count

/-- What a parameter is passed for an item of a row. -/
inductive Passed (sig : Signature) (row : List ExplicitValue) (p : Param) :
    ExplicitValue → ArgValue → Prop
  | null (hpointer : p.ty.isPointer = true) : Passed sig row p .null .null
  /-- A number that sizes no buffer. -/
  | free {ty : ScalarType} {item : ExplicitValue} {v : ScalarValue} (hty : p.ty = .scalar ty)
      (hname : p.name ∉ sig.dimensions) (hv : Stands ty item v) : Passed sig row p item (.scalar v)
  /-- A number that follows the lists of the buffers it sizes. -/
  | sized {width : Width} {signed : Bool} {item : ExplicitValue} {count : Nat} {v : ScalarValue}
      (hty : p.ty = .scalar (.int width signed)) (hname : p.name ∈ sig.dimensions)
      (hitem : item ≠ .null) (hsize : Sizes (sig.params.zip row) p.name count)
      (hv : v.Reduces width signed count) : Passed sig row p item (.scalar v)
  /-- A number without such a list; a negative one counts as zero. -/
  | unsized {width : Width} {signed : Bool} {i : Int} {v : ScalarValue}
      (hty : p.ty = .scalar (.int width signed)) (hname : p.name ∈ sig.dimensions)
      (hnone : ∀ count, ¬ Sizes (sig.params.zip row) p.name count)
      (hv : v.Reduces width signed (max i 0)) : Passed sig row p (.int i) (.scalar v)
  /-- A number without such a list that is too great for a sign. -/
  | unsizedGreat {width : Width} {signed : Bool} {n : Nat} {v : ScalarValue}
      (hty : p.ty = .scalar (.int width signed)) (hname : p.name ∈ sig.dimensions)
      (hnone : ∀ count, ¬ Sizes (sig.params.zip row) p.name count)
      (hv : v.Reduces width signed n) : Passed sig row p (.uint n) (.scalar v)
  | buffer {elem : ScalarType} {length : LengthExpr} {isMutable : Bool}
      {items : List ExplicitValue} {elements : List ScalarValue} {content : Bytes}
      (hty : p.ty = .buffer elem length isMutable)
      (hitems : List.Forall₂ (Stands elem) items elements)
      (hsize : content.length = items.length * elem.size)
      (hcontent : ArgValue.elements? elem content = some elements) :
      Passed sig row p (.list items) (.buffer elem content)
  | cstring {isMutable : Bool} {s : String} (hty : p.ty = .cstring isMutable) :
      Passed sig row p (.text s) (.cstring s.toUTF8.data.toList)
  | bytes {size : Nat} {isMutable : Bool} {items : List ExplicitValue} {content : Bytes}
      (hty : p.ty = .bytes size isMutable)
      (hitems : List.Forall₂ (fun item b => ∃ k, item.integer? = some k ∧ (b.toNat : Int) = k % 256)
        items content) :
      Passed sig row p (.list items) (.bytes content)
  | aggregate {fields : List ScalarType} {items : List ExplicitValue} {values : List ScalarValue}
      (hty : p.ty = .aggregate fields) (hlength : fields.length = items.length)
      (hitems : List.Forall₂ (fun field v => Stands field.1 field.2 v) (fields.zip items) values) :
      Passed sig row p (.list items) (.aggregate values)

section

variable {row : Nat} {config : GeneratorConfig} {sig : Signature} {dims : Dims} {p : Param}
  {item : ExplicitValue} {written : List ExplicitValue} {name : String}

theorem stands_of_scalar {ty : ScalarType} {v : ScalarValue} (hv : scalar ty item = .ok v) :
    Stands ty item v := by
  unfold scalar at hv
  split at hv
  case h_1 =>
    cases hv
    exact .integer rfl (ScalarValue.reduces_ofInt _ _ _)
  case h_2 width signed n =>
    cases hv
    have hv := ScalarValue.reduces_ofInt width signed n
    rw [ScalarValue.ofInt, BitVec.ofInt_natCast] at hv
    exact .integer rfl hv
  case h_3 | h_5 =>
    cases hv
    exact stands_ofDouble_single rfl
  case h_4 | h_6 =>
    cases hv
    exact stands_ofDouble_double rfl
  case h_7 => cases hv

/-- Without a list for a name, its value is the one that is written. -/
theorem lookup_listDims {pairs : List (Param × ExplicitValue)}
    (hnone : ∀ count, ¬ Sizes pairs name count) :
    (listDims pairs dims).lookup name = dims.lookup name := by
  induction pairs generalizing dims with
  | nil => rfl
  | cons pair rest ih =>
      obtain ⟨p, item⟩ := pair
      have hrest : ∀ count, ¬ Sizes rest name count := by
        rintro count ⟨q, elem, isMutable, items, hmem, hty, hcount⟩
        exact hnone count ⟨q, elem, isMutable, items, List.mem_cons_of_mem _ hmem, hty, hcount⟩
      simp only [listDims]
      split
      · next elem other isMutable items hty =>
          have hother : name ≠ other := by
            rintro rfl
            exact hnone _ ⟨p, elem, isMutable, items, List.mem_cons_self, hty, rfl⟩
          rw [ih hrest, List.lookup_cons, beq_eq_false_iff_ne.2 hother]
      · exact ih hrest

theorem lookup_writtenDims_iff {names : List String} {d : Nat} :
    (writtenDims sig written names).lookup name = some d ↔
      name ∈ names ∧ ∃ i, ((sig.indexOf? name).bind fun k => written[k]?) = some (.int i) ∧
        d = i.toNat := by
  induction names with
  | nil => simp [writtenDims]
  | cons first rest ih =>
      rw [writtenDims]
      split
      · next i hitem =>
          by_cases hname : name = first
          · subst hname
            rw [List.lookup_cons_self, hitem]
            simp [eq_comm]
          · rw [List.lookup_cons, beq_eq_false_iff_ne.2 hname, ih, List.mem_cons,
              or_iff_right hname]
      · next hitem =>
          by_cases hname : name = first
          · subst hname
            rw [ih]
            constructor
            · rintro ⟨hmem, hint⟩
              exact ⟨List.mem_cons_of_mem _ hmem, hint⟩
            · rintro ⟨_, i, hi, _⟩
              exact (hitem i hi).elim
          · rw [ih, List.mem_cons, or_iff_right hname]

/-- The item of a parameter stands at the position of its name. -/
theorem item_of_mem_zip (hvalid : sig.validate = .ok ())
    (hmem : (p, item) ∈ sig.params.zip written) :
    ((sig.indexOf? p.name).bind fun k => written[k]?) = some item := by
  obtain ⟨j, hj⟩ := List.mem_iff_getElem?.1 hmem
  obtain ⟨hparam, hitem⟩ := List.getElem?_zip_eq_some.1 hj
  obtain ⟨i, hindex, hi⟩ := Signature.exists_indexOf? hvalid (List.mem_of_getElem? hparam)
  have hsame : i = j := by
    refine (List.getElem?_inj ?_ (Signature.nodup_of_validate hvalid)).1 ?_
    · rw [List.length_map]
      exact (List.getElem?_eq_some_iff.1 hi).1
    · rw [List.getElem?_map, List.getElem?_map, hi, hparam]
  rw [hindex, Option.bind_some, hsame, hitem]

theorem forall₂_of_build {values : List ArgValue}
    (hbuild : build row config sig written = .ok values) :
    written.length = sig.params.length ∧
      List.Forall₂
        (fun pair v => valueOrNull row config (ExplicitRow.dims sig written) pair = .ok v)
        (sig.params.zip written) values := by
  unfold build at hbuild
  split at hbuild
  · cases hbuild
  · next hlength => exact ⟨not_not.1 hlength, mapM_eq_ok_iff.1 hbuild⟩

/-- Every list for a name has the size that is the value of the name. -/
theorem lookup_of_sizes {values : List ArgValue}
    (hbuild : build row config sig written = .ok values) {count : Nat}
    (hsize : Sizes (sig.params.zip written) name count) :
    (ExplicitRow.dims sig written).lookup name = some count := by
  obtain ⟨p, elem, isMutable, items, hmem, hty, rfl⟩ := hsize
  obtain ⟨i, hi⟩ := List.mem_iff_getElem?.1 hmem
  obtain ⟨v, _, hv⟩ := exists_getElem?_of_forall₂ (forall₂_of_build hbuild).2 hi
  cases converted_of_value hv with
  | buffer hty' hlength =>
      rw [hty] at hty'
      cases hty'
      exact hlength
  | dimension hty' | scalar hty' | bytes hty' | aggregate hty' =>
      rw [hty] at hty'
      cases hty'

/-- Only a name that sizes buffers has a value. -/
theorem mem_dimensions_of_lookup {d : Nat}
    (hlookup : (ExplicitRow.dims sig written).lookup name = some d) : name ∈ sig.dimensions := by
  by_cases hsized : ∃ count, Sizes (sig.params.zip written) name count
  · obtain ⟨count, p, elem, isMutable, items, hmem, hty, _⟩ := hsized
    apply Signature.mem_dimensions.2
    refine ⟨p, (List.of_mem_zip hmem).1, ?_⟩
    simp [hty, ValueType.lengthNames, LengthExpr.names, LengthExpr.namesAfter]
  · rw [ExplicitRow.dims, lookup_listDims (not_exists.1 hsized), lookup_writtenDims_iff] at hlookup
    exact hlookup.1

/-- A name with a value follows its lists, or the integer that is written for it. -/
theorem passed_of_dimension {values : List ArgValue} {ty : ScalarType} {d : Nat}
    (hvalid : sig.validate = .ok ()) (hbuild : build row config sig written = .ok values)
    (hmem : (p, item) ∈ sig.params.zip written) (hitem : item ≠ .null) (hty : p.ty = .scalar ty)
    (hlookup : (ExplicitRow.dims sig written).lookup p.name = some d) :
    Passed sig written p item (.scalar (dimensionValue ty d)) := by
  have hname := mem_dimensions_of_lookup hlookup
  obtain ⟨width, signed, hinteger⟩ :=
    Signature.integer_of_mem_dimensions hvalid (List.of_mem_zip hmem).1 hname
  obtain rfl : ty = .int width signed := ValueType.scalar.inj (hty.symm.trans hinteger)
  rw [dimensionValue_eq_ofInt]
  by_cases hsized : ∃ count, Sizes (sig.params.zip written) p.name count
  · obtain ⟨count, hsize⟩ := hsized
    rw [lookup_of_sizes hbuild hsize] at hlookup
    cases hlookup
    exact .sized hty hname hitem hsize (ScalarValue.reduces_ofInt width signed _)
  · have hnone := not_exists.1 hsized
    rw [ExplicitRow.dims, lookup_listDims hnone, lookup_writtenDims_iff] at hlookup
    obtain ⟨_, i, hi, rfl⟩ := hlookup
    rw [item_of_mem_zip hvalid hmem] at hi
    cases hi
    apply Passed.unsized hty hname hnone
    rw [Int.ofNat_toNat]
    exact ScalarValue.reduces_ofInt width signed _

/-- A name without a value has no list and no integer with a sign, if it sizes buffers. -/
theorem passed_of_free {values : List ArgValue} {ty : ScalarType} {v : ScalarValue}
    (hvalid : sig.validate = .ok ()) (hbuild : build row config sig written = .ok values)
    (hmem : (p, item) ∈ sig.params.zip written) (hty : p.ty = .scalar ty)
    (hfree : (ExplicitRow.dims sig written).lookup p.name = none)
    (hv : scalar ty item = .ok v) : Passed sig written p item (.scalar v) := by
  by_cases hname : p.name ∈ sig.dimensions
  · have hnone : ∀ count, ¬ Sizes (sig.params.zip written) p.name count := by
      intro count hsize
      rw [lookup_of_sizes hbuild hsize] at hfree
      cases hfree
    have hunsigned : ∀ i, item ≠ .int i := by
      rintro i rfl
      have hwritten : (writtenDims sig written sig.dimensions).lookup p.name = some i.toNat :=
        lookup_writtenDims_iff.2 ⟨hname, i, item_of_mem_zip hvalid hmem, rfl⟩
      rw [ExplicitRow.dims, lookup_listDims hnone, hwritten] at hfree
      cases hfree
    obtain ⟨width, signed, hinteger⟩ :=
      Signature.integer_of_mem_dimensions hvalid (List.of_mem_zip hmem).1 hname
    obtain rfl : ty = .int width signed := ValueType.scalar.inj (hty.symm.trans hinteger)
    cases stands_of_scalar hv with
    | integer hwritten hreduces =>
        cases item with
        | int i => exact absurd rfl (hunsigned i)
        | uint n =>
            cases hwritten
            exact .unsizedGreat hty hname hnone hreduces
        | null | float | text | list => cases hwritten
  · exact .free hty hname (stands_of_scalar hv)

theorem stands_of_mapM {elem : ScalarType} {items : List ExplicitValue}
    {elements : List ScalarValue} (helements : items.mapM (scalar elem) = .ok elements) :
    List.Forall₂ (Stands elem) items elements := by
  refine (mapM_eq_ok_iff.1 helements).imp ?_
  intro item v hv
  exact stands_of_scalar hv

theorem passed_of_value {values : List ArgValue} {v : ArgValue} (hvalid : sig.validate = .ok ())
    (hbuild : build row config sig written = .ok values)
    (hmem : (p, item) ∈ sig.params.zip written) (hitem : item ≠ .null)
    (hv : value row config (ExplicitRow.dims sig written) p item = .ok v) :
    Passed sig written p item v := by
  cases converted_of_value hv with
  | dimension hty hdim => exact passed_of_dimension hvalid hbuild hmem hitem hty hdim
  | scalar hty hfree hscalar => exact passed_of_free hvalid hbuild hmem hty hfree hscalar
  | buffer hty _ _ hvalues =>
      obtain ⟨hcount, hof⟩ := isOf_scalars hvalues
      refine .buffer hty (stands_of_mapM hvalues) ?_ (ArgValue.elements?_flatMap_toBytes hof)
      rw [Given.length_flatMap_toBytes hof, hcount]
  | cstring hty =>
      rw [Text.utf8_toList]
      exact .cstring hty
  | bytes hty _ hvalues =>
      apply Passed.bytes hty
      rw [List.forall₂_map_right_iff]
      refine (stands_of_mapM hvalues).imp ?_
      rintro item x (⟨hinteger, hreduces⟩ | _ | _)
      refine ⟨_, hinteger, ?_⟩
      have hbits := hreduces.bits
      rw [UInt8.toNat_ofNat']
      simp only [Width.bits, Width.bytes] at hbits
      omega
  | aggregate hty hcount hvalues =>
      apply Passed.aggregate hty hcount.symm
      refine (mapM_eq_ok_iff.1 hvalues).imp ?_
      rintro ⟨field, item⟩ x hx
      exact stands_of_scalar hx

theorem passed_of_valueOrNull {values : List ArgValue} {v : ArgValue}
    (hvalid : sig.validate = .ok ()) (hbuild : build row config sig written = .ok values)
    (hmem : (p, item) ∈ sig.params.zip written)
    (hv : valueOrNull row config (ExplicitRow.dims sig written) (p, item) = .ok v) :
    Passed sig written p item v := by
  unfold valueOrNull at hv
  split at hv
  · next hpair =>
      cases hpair
      split at hv
      · next hpointer =>
          cases hv
          exact .null hpointer
      · cases hv
  · next hnull hpair =>
      cases hpair
      have hitem : item ≠ .null := by
        rintro rfl
        exact hnull rfl
      exact passed_of_value hvalid hbuild hmem hitem hv

theorem Passed.null_iff {v : ArgValue} (hpassed : Passed sig written p item v) :
    v = .null ↔ item = .null := by
  cases hpassed with
  | null => simp
  | free _ _ hv =>
      cases hv with
      | integer hitem | single hitem | double hitem =>
          cases item with
          | null => cases hitem
          | int | uint | float | text | list => simp
  | sized _ _ hitem => simp [hitem]
  | unsized | unsizedGreat | buffer | cstring | bytes | aggregate => simp

end

/-- How the arguments of a row stand to what is written in it. -/
structure AsWritten (sig : Signature) (row : List ExplicitValue) (values : List ArgValue) :
    Prop where
  arity : row.length = sig.params.length
  passed : List.Forall₂ (fun pair v => Passed sig row pair.1 pair.2 v) (sig.params.zip row) values
  null_iff : List.Forall₂ (fun item v => v = ArgValue.null ↔ item = ExplicitValue.null) row values
  /-- All lists for one name have one size. -/
  common : ∀ name count count', Sizes (sig.params.zip row) name count →
    Sizes (sig.params.zip row) name count' → count = count'

/-- A row that is built for a valid signature is passed as it is written. -/
theorem asWritten_of_build (row : Nat) (config : GeneratorConfig) (sig : Signature)
    (written : List ExplicitValue) (values : List ArgValue) (hvalid : sig.validate = .ok ())
    (hbuild : build row config sig written = .ok values) : AsWritten sig written values := by
  obtain ⟨harity, hall⟩ := forall₂_of_build hbuild
  have hpassed : List.Forall₂ (fun pair v => Passed sig written pair.1 pair.2 v)
      (sig.params.zip written) values := by
    refine ((List.forall₂_and_left _ _).2 ⟨fun pair hpair => hpair, hall⟩).imp ?_
    rintro ⟨p, item⟩ v ⟨hmem, hv⟩
    exact passed_of_valueOrNull hvalid hbuild hmem hv
  refine ⟨harity, hpassed, ?null_iff, ?common⟩
  case null_iff =>
    have hitems : (sig.params.zip written).map Prod.snd = written :=
      List.map_snd_zip (Nat.le_of_eq harity)
    rw [← hitems, List.forall₂_map_left_iff]
    exact hpassed.imp fun pair v hpair => hpair.null_iff
  case common =>
    intro name count count' hsize hsize'
    have hlookup := lookup_of_sizes hbuild hsize
    rw [lookup_of_sizes hbuild hsize'] at hlookup
    exact (Option.some.inj hlookup).symm

namespace Shared

/-- Three buffers of one length, and a parameter of every other shape. -/
def sig : Signature :=
  ⟨"f",
    [⟨"n", .scalar (.int .w1 true), none, false, []⟩,
      ⟨"xs", .buffer (.int .w2 false) (.param "n") false, none, false, []⟩,
      ⟨"ys", .buffer .f32 (.param "n") true, none, false, []⟩,
      ⟨"zs", .buffer (.int .w8 true) (.param "n") true, none, true, []⟩,
      ⟨"m", .scalar (.int .w4 false), none, false, []⟩,
      ⟨"ws", .buffer (.int .w1 false) (.add (.param "m") (.const 1)) true, none, false, []⟩,
      ⟨"k", .scalar (.int .w1 false), none, false, []⟩,
      ⟨"name", .cstring false, none, false, []⟩,
      ⟨"raw", .bytes 2 true, none, true, []⟩,
      ⟨"pair", .aggregate [.int .w1 true, .f64], none, false, []⟩],
    .void⟩

/-- The lists for `n` have two items, though seven are written, and there is none for `m`. -/
def row : List ExplicitValue :=
  [.int 7, .list [.int (-1), .uint 65537], .list [.int 1, .float ⟨0⟩], .null, .int (-3),
    .list [.int 9], .int 300, .text "é", .list [.uint 255, .int 256], .list [.int (-1), .int 2]]

/-- What the parameters get. -/
def values : List ArgValue :=
  [.scalar ⟨.int .w1 true, 2⟩, .buffer (.int .w2 false) [0xff, 0xff, 0x01, 0x00],
    .buffer .f32 [0x00, 0x00, 0x80, 0x3f, 0x00, 0x00, 0x00, 0x00], .null,
    .scalar ⟨.int .w4 false, 0⟩, .buffer (.int .w1 false) [9], .scalar ⟨.int .w1 false, 44⟩,
    .cstring [0xc3, 0xa9], .bytes [255, 0],
    .aggregate [⟨.int .w1 true, 0xff⟩, ⟨.f64, 0x4000000000000000⟩]]

end Shared

open Shared in
theorem asWritten_of_build_shared :
    build 0 .default sig row = .ok values ∧ AsWritten sig row values := by
  have hbuild : build 0 .default sig row = .ok values := by rfl
  exact ⟨hbuild, asWritten_of_build 0 .default sig row values (by rfl) hbuild⟩

end ExplicitRow

end Counterpart
