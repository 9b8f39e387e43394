/-
Values that conform to the types of their parameters.  Such values are accepted by the
encoder and can be shown.
-/
import Counterpart.Proofs.Exchange.Decoding
import Counterpart.Proofs.Scalar.Value

namespace Counterpart

namespace ScalarValue

/-- A value of the type without bits outside it. -/
def IsOf (ty : ScalarType) (v : ScalarValue) : Prop :=
  v.ty = ty ∧ v.Fits

theorem isOf_ofBits (ty : ScalarType) (bits : Word) : (ofBits ty bits).IsOf ty := by
  refine ⟨rfl, ?_⟩
  rw [Fits, ofBits, BitVec.and_assoc, BitVec.and_self]

theorem isOf_ofInt (ty : ScalarType) (i : Int) : (ofInt ty i).IsOf ty :=
  isOf_ofBits ty _

theorem isOf_ofDouble (ty : ScalarType) (x : Double) : (ofDouble ty x).IsOf ty := by
  cases ty with
  | int width signed => exact isOf_ofInt _ _
  | f32 => exact isOf_ofBits _ _
  | f64 => exact isOf_ofBits _ _

theorem length_toBytes (v : ScalarValue) : v.toBytes.length = v.ty.size := by
  rw [toBytes, List.length_map, List.length_range]

/-- As many bytes as the type has are a value of it. -/
theorem exists_ofBytes? {ty : ScalarType} {bytes : Bytes} (hlength : bytes.length = ty.size) :
    ∃ v, ofBytes? ty bytes = some v := by
  unfold ofBytes?
  rw [hlength]
  cases ty with
  | int width signed => cases width <;> exact ⟨_, rfl⟩
  | f32 => exact ⟨_, rfl⟩
  | f64 => exact ⟨_, rfl⟩

end ScalarValue

namespace ArgValue

/-- What a value has to be for a parameter of a type, buffers having at most `cap`
elements. -/
inductive Conforms (cap : Nat) : ValueType → ArgValue → Prop
  | scalar {ty : ScalarType} {v : ScalarValue} (hv : v.IsOf ty) :
      Conforms cap (.scalar ty) (.scalar v)
  | buffer {elem : ScalarType} {length : LengthExpr} {isMutable : Bool} {content : Bytes}
      (hwhole : elem.size ∣ content.length) (hcap : content.length / elem.size ≤ cap) :
      Conforms cap (.buffer elem length isMutable) (.buffer elem content)
  | cstring {isMutable : Bool} {content : Bytes} (hnul : 0 ∉ content) :
      Conforms cap (.cstring isMutable) (.cstring content)
  | bytes {size : Nat} {isMutable : Bool} {content : Bytes} (hsize : content.length = size) :
      Conforms cap (.bytes size isMutable) (.bytes content)
  | aggregate {fields : List ScalarType} {values : List ScalarValue}
      (hfields : List.Forall₂ ScalarValue.IsOf fields values) :
      Conforms cap (.aggregate fields) (.aggregate values)
  | null {ty : ValueType} (hpointer : ty.isPointer = true) : Conforms cap ty .null

/-- What a value has to be for a parameter of a type, whatever it holds and however long it is. -/
inductive Suits : ValueType → ArgValue → Prop
  | scalar {ty : ScalarType} {v : ScalarValue} (hv : v.IsOf ty) : Suits (.scalar ty) (.scalar v)
  | buffer {elem : ScalarType} {length : LengthExpr} {isMutable : Bool} {content : Bytes}
      (hwhole : elem.size ∣ content.length) :
      Suits (.buffer elem length isMutable) (.buffer elem content)
  | cstring {isMutable : Bool} {content : Bytes} : Suits (.cstring isMutable) (.cstring content)
  | bytes {size : Nat} {isMutable : Bool} {content : Bytes} :
      Suits (.bytes size isMutable) (.bytes content)
  | aggregate {fields : List ScalarType} {values : List ScalarValue}
      (hfields : List.Forall₂ ScalarValue.IsOf fields values) :
      Suits (.aggregate fields) (.aggregate values)
  | null {ty : ValueType} (hpointer : ty.isPointer = true) : Suits ty .null

theorem Conforms.suits {cap : Nat} {ty : ValueType} {v : ArgValue} (hv : v.Conforms cap ty) :
    v.Suits ty := by
  cases hv with
  | scalar hv => exact .scalar hv
  | buffer hwhole _ => exact .buffer hwhole
  | cstring _ => exact .cstring
  | bytes _ => exact .bytes
  | aggregate hfields => exact .aggregate hfields
  | null hpointer => exact .null hpointer

end ArgValue

namespace Exchange

theorem exists_fieldsText (param : String) {tys : List ScalarType} {vs : List ScalarValue}
    (hfields : List.Forall₂ ScalarValue.IsOf tys vs) :
    ∃ text, fieldsText param tys vs = .ok text := by
  induction hfields with
  | nil => exact ⟨[], rfl⟩
  | cons hv _ ih =>
      obtain ⟨others, hothers⟩ := ih
      have hfirst : scalarText param _ _ = .ok _ := scalarText_eq_ok_iff.2 ⟨hv.1, rfl⟩
      exact ⟨_, bind_eq_ok_iff.2 ⟨_, hfirst, bind_eq_ok_iff.2 ⟨others, hothers, rfl⟩⟩⟩

theorem exists_argumentText {cap : Nat} {p : Param} {v : ArgValue} (hv : v.Conforms cap p.ty) :
    ∃ text, argumentText p v = .ok text := by
  obtain ⟨name, ty, range, nullable, ignore⟩ := p
  cases hv with
  | scalar hv => exact ⟨_, scalarText_eq_ok_iff.2 ⟨hv.1, rfl⟩⟩
  | buffer _ _ => exact ⟨_, if_pos rfl⟩
  | cstring _ => exact ⟨_, rfl⟩
  | bytes _ => exact ⟨_, rfl⟩
  | aggregate hfields => exact exists_fieldsText name hfields
  | null hpointer =>
      cases ty with
      | scalar ty => cases hpointer
      | aggregate fields => cases hpointer
      | buffer elem length isMutable => exact ⟨_, rfl⟩
      | cstring isMutable => exact ⟨_, rfl⟩
      | bytes size isMutable => exact ⟨_, rfl⟩

theorem exists_argumentsText {cap : Nat} {ps : List Param} {values : List ArgValue}
    (hvalues : List.Forall₂ (fun p v => ArgValue.Conforms cap p.ty v) ps values) :
    ∃ text, argumentsText ps values = .ok text := by
  induction hvalues with
  | nil => exact ⟨[], rfl⟩
  | cons hv _ ih =>
      obtain ⟨first, hfirst⟩ := exists_argumentText hv
      obtain ⟨others, hothers⟩ := ih
      exact ⟨_, bind_eq_ok_iff.2 ⟨first, hfirst, bind_eq_ok_iff.2 ⟨others, hothers, rfl⟩⟩⟩

/-- Conforming values are encoded. -/
theorem exists_encode {cap : Nat} {sig : Signature} {values : List ArgValue}
    (hvalues : List.Forall₂ (fun p v => ArgValue.Conforms cap p.ty v) sig.params values) :
    ∃ text, encode sig values = .ok text := by
  obtain ⟨groups, hgroups⟩ := exists_argumentsText hvalues
  refine ⟨groups ++ ['\n'], ?_⟩
  rw [encode, if_neg (not_not.2 hvalues.length_eq.symm)]
  exact bind_eq_ok_iff.2 ⟨groups, hgroups, rfl⟩

end Exchange

namespace ArgValue

theorem length_of_mem_chunks {size : Nat} {content : Bytes} (hwhole : size ∣ content.length) :
    ∀ chunk ∈ chunks size content, chunk.length = size := by
  induction content using chunks.induct size with
  | case1 content hmore ih =>
      have hle : size ≤ content.length :=
        Nat.le_of_dvd (List.length_pos_iff.2 hmore.2) hwhole
      rw [chunks, if_pos hmore]
      intro chunk hchunk
      rcases List.mem_cons.1 hchunk with rfl | hchunk
      · rw [List.length_take, Nat.min_eq_left hle]
      · apply ih _ chunk hchunk
        rw [List.length_drop]
        exact Nat.dvd_sub hwhole (Nat.dvd_refl size)
  | case2 content hend =>
      rw [chunks, if_neg hend]
      simp

theorem exists_elements? {elem : ScalarType} {content : Bytes}
    (hwhole : elem.size ∣ content.length) : ∃ values, elements? elem content = some values := by
  have hchunks := length_of_mem_chunks hwhole
  unfold elements?
  generalize chunks elem.size content = parts at hchunks
  induction parts with
  | nil => exact ⟨[], rfl⟩
  | cons chunk rest ih =>
      obtain ⟨v, hv⟩ := ScalarValue.exists_ofBytes? (hchunks chunk List.mem_cons_self)
      obtain ⟨vs, hvs⟩ := ih fun other hother => hchunks other (List.mem_cons_of_mem _ hother)
      exact ⟨v :: vs, by simp [List.mapM_cons, hv, hvs]⟩

theorem Suits.exists_text? {ty : ValueType} {v : ArgValue} (hv : v.Suits ty) :
    ∃ text, v.text? = some text := by
  cases hv with
  | buffer hwhole =>
      obtain ⟨values, hvalues⟩ := exists_elements? hwhole
      exact ⟨_, by rw [text?, hvalues, Option.map_some]⟩
  | scalar _ | cstring | bytes | aggregate _ | null _ => exact ⟨_, rfl⟩

end ArgValue

namespace ArgumentSet

/-- A value for each parameter, each one of the type of its parameter. -/
def Suits (sig : Signature) (set : ArgumentSet) : Prop :=
  List.Forall₂ (fun p v => ArgValue.Suits p.ty v) sig.params set.values

theorem valuesText?_cons_cons {v w : ArgValue} {vs : List ArgValue} {text : List Char} :
    valuesText? (v :: w :: vs) = some text ↔
      ∃ front back, v.text? = some front ∧ valuesText? (w :: vs) = some back ∧
        front ++ ',' :: ' ' :: back = text := by
  simp [valuesText?, Option.bind_eq_some_iff]

theorem exists_valuesText? {ps : List Param} {values : List ArgValue}
    (hvalues : List.Forall₂ (fun p v => ArgValue.Suits p.ty v) ps values) :
    ∃ text, valuesText? values = some text := by
  induction hvalues with
  | nil => exact ⟨[], rfl⟩
  | cons hv hrest ih =>
      obtain ⟨first, hfirst⟩ := hv.exists_text?
      obtain ⟨others, hothers⟩ := ih
      cases hrest with
      | nil => exact ⟨first, hfirst⟩
      | cons _ _ => exact ⟨_, valuesText?_cons_cons.2 ⟨first, others, hfirst, hothers, rfl⟩⟩

/-- Conforming values are shown. -/
theorem exists_text? {cap : Nat} {ps : List Param} {set : ArgumentSet}
    (hvalues : List.Forall₂ (fun p v => ArgValue.Conforms cap p.ty v) ps set.values) :
    ∃ text, set.text? = some text := by
  obtain ⟨values, htext⟩ := exists_valuesText? (hvalues.imp fun _ _ hv => hv.suits)
  exact ⟨_, by rw [text?, htext, Option.map_some]⟩

end ArgumentSet

end Counterpart
