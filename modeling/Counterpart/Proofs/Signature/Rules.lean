/-
The rules that validation decides.  A signature passes exactly if its names are identifiers, no two
parameters share one, and every parameter is admissible.  The fault of a name comes before every
other; behind it, the first parameter that is not admissible tells what is wrong with it.
-/
import Counterpart.Proofs.Check
import Counterpart.Proofs.Length.Expr
import Counterpart.Proofs.Signature.Valid

namespace Counterpart

theorem decides_require {ε : Type} (condition : Bool) (error : ε) :
    Decides (require condition error) (condition = true)
      fun e => condition = false ∧ e = error := by
  cases condition with
  | false => exact ⟨by simp [require], by simp [require, eq_comm]⟩
  | true => exact ⟨by simp [require], by simp [require]⟩

namespace ValueType

/-- A number without a fraction. -/
def IsInteger (ty : ValueType) : Prop :=
  ∃ width signed, ty = scalar (.int width signed)

/-- A buffer whose length mentions a parameter. -/
def SizedBy (ty : ValueType) (name : String) : Prop :=
  ∃ elem length isMutable, ty = buffer elem length isMutable ∧ length.Mentions name

theorem isSome_integer?_iff {ty : ValueType} : ty.integer?.isSome = true ↔ ty.IsInteger := by
  constructor
  · exact exists_integer_of_isSome
  · rintro ⟨width, signed, rfl⟩
    rfl

theorem mem_lengthNames_iff {ty : ValueType} {name : String} :
    name ∈ ty.lengthNames ↔ ty.SizedBy name := by
  cases ty with
  | buffer elem length isMutable =>
      rw [lengthNames, LengthExpr.mem_names_iff]
      constructor
      · exact fun hname => ⟨elem, length, isMutable, rfl, hname⟩
      · rintro ⟨_, _, _, hty, hname⟩
        cases hty
        exact hname
  | scalar | cstring | bytes | aggregate => simp [lengthNames, SizedBy]

end ValueType

namespace Signature

variable {sig : Signature} {p : Param}

/-- A name of an integer parameter. -/
def NamesInteger (sig : Signature) (name : String) : Prop :=
  ∃ q ∈ sig.params, q.name = name ∧ q.ty.IsInteger

/-- A name in the length of some buffer. -/
def Sizes (sig : Signature) (name : String) : Prop :=
  ∃ q ∈ sig.params, q.ty.SizedBy name

/-- The names in the length of a buffer are names of integers. -/
def LengthSound (sig : Signature) (p : Param) : Prop :=
  ∀ name, p.ty.SizedBy name → sig.NamesInteger name

/-- A range stands on an integer, is not empty, and allows no negative length. -/
def RangeSound (sig : Signature) (p : Param) : Prop :=
  ∀ r, p.range = some r → p.ty.IsInteger ∧ r.min ≤ r.max ∧ (sig.Sizes p.name → 0 ≤ r.min)

/-- Only pointers may be null. -/
def NullSound (p : Param) : Prop :=
  p.nullable = true → p.ty.isPointer = true

/-- A structure has a field, and an object of known size a byte. -/
def SizeSound (p : Param) : Prop :=
  p.ty ≠ .aggregate [] ∧ ∀ isMutable, p.ty ≠ .bytes 0 isMutable

/-- Ignored bytes are those of an object or of a buffer, are not empty, and end inside the
object, where the end is the sum of the offset and the length as a word of sixty-four bits. -/
def IgnoreSound (p : Param) : Prop :=
  ∀ r ∈ p.ignore, 0 < r.length ∧
    ((∃ size isMutable, p.ty = .bytes size isMutable ∧
        (r.offset + r.length) % 2 ^ 64 ≤ size) ∨
      ∃ elem length isMutable, p.ty = .buffer elem length isMutable)

/-- Where the sums fit, the bytes lie inside the object. -/
theorem ignoreSound_iff_of_fits {p : Param}
    (hfits : ∀ r ∈ p.ignore, r.offset + r.length < 2 ^ 64) :
    IgnoreSound p ↔ ∀ r ∈ p.ignore, 0 < r.length ∧
      ((∃ size isMutable, p.ty = .bytes size isMutable ∧ r.offset + r.length ≤ size) ∨
        ∃ elem length isMutable, p.ty = .buffer elem length isMutable) := by
  refine forall₂_congr fun r hr => ?_
  rw [Nat.mod_eq_of_lt (hfits r hr)]

/-- What is asked of a parameter beside its name. -/
structure Admissible (sig : Signature) (p : Param) : Prop where
  length : sig.LengthSound p
  range : sig.RangeSound p
  null : NullSound p
  size : SizeSound p
  ignore : IgnoreSound p

/-- The fault of a name in a length. -/
inductive LengthNameFault (sig : Signature) (p : Param) (name : String) : SignatureError → Prop
  | unknown (habsent : ∀ q ∈ sig.params, q.name ≠ name) :
      LengthNameFault sig p name (.unknownLengthParam sig.name p.name name)
  | nonInteger {q : Param} (hq : q ∈ sig.params) (hname : q.name = name)
      (hinteger : ¬ q.ty.IsInteger) :
      LengthNameFault sig p name (.nonIntegerLengthParam sig.name name)

/-- The fault of a range. -/
inductive RangeFault (sig : Signature) (p : Param) : SignatureError → Prop
  | nonInteger (hrange : p.range.isSome) (hinteger : ¬ p.ty.IsInteger) :
      RangeFault sig p (.rangeOnNonInteger sig.name p.name)
  | invalid (hinteger : p.ty.IsInteger) (hrange : ¬ sig.RangeSound p) :
      RangeFault sig p (.invalidRange sig.name p.name)

/-- The fault of an object without bytes. -/
inductive SizeFault (sig : Signature) (p : Param) : SignatureError → Prop
  | emptyAggregate (hty : p.ty = .aggregate []) :
      SizeFault sig p (.emptyAggregate sig.name p.name)
  | zeroSized {isMutable : Bool} (hty : p.ty = .bytes 0 isMutable) :
      SizeFault sig p (.zeroSizedBytes sig.name p.name)

/-- The fault of a parameter: that of the first rule it breaks, and of the names in its length
that of the first in the order of use. -/
inductive ParamFault (sig : Signature) (p : Param) : SignatureError → Prop
  | length {e : SignatureError}
      (hfirst : FirstFault (fun _ => sig.NamesInteger) (fun _ => sig.LengthNameFault p)
        p.ty.lengthNames e) : ParamFault sig p e
  | range {e : SignatureError} (hlength : sig.LengthSound p) (hfault : sig.RangeFault p e) :
      ParamFault sig p e
  | null (hlength : sig.LengthSound p) (hrange : sig.RangeSound p) (hfault : ¬ NullSound p) :
      ParamFault sig p (.nullableNonPointer sig.name p.name)
  | size {e : SignatureError} (hlength : sig.LengthSound p) (hrange : sig.RangeSound p)
      (hnull : NullSound p) (hfault : sig.SizeFault p e) : ParamFault sig p e
  | ignore (hlength : sig.LengthSound p) (hrange : sig.RangeSound p) (hnull : NullSound p)
      (hsize : SizeSound p) (hfault : ¬ IgnoreSound p) :
      ParamFault sig p (.invalidIgnoreRange sig.name p.name)

/-- The names of parameters are identifiers and all different. -/
structure WellNamed (params : List Param) : Prop where
  identifiers : ∀ p ∈ params, Text.isIdentifier p.name.toList = true
  nodup : (params.map (·.name)).Nodup

/-- The fault of a name: that of the function, or that of the first parameter whose name is not an
identifier or has been used. -/
inductive NameFault (sig : Signature) : SignatureError → Prop
  | function (hname : Text.isIdentifier sig.name.toList = false) :
      NameFault sig (.invalidName sig.name)
  | param (hname : Text.isIdentifier sig.name.toList = true) {before after : List Param}
      {p : Param} (hsplit : sig.params = before ++ p :: after) (hbefore : WellNamed before)
      (hparam : Text.isIdentifier p.name.toList = false) : NameFault sig (.invalidName p.name)
  | repeated (hname : Text.isIdentifier sig.name.toList = true) {before after : List Param}
      {p : Param} (hsplit : sig.params = before ++ p :: after) (hbefore : WellNamed before)
      (hparam : Text.isIdentifier p.name.toList = true) (hused : p.name ∈ before.map (·.name)) :
      NameFault sig (.duplicateParam sig.name p.name)

section Params

/-- One name in the length of a parameter. -/
def checkLengthName (sig : Signature) (p : Param) (name : String) : Except SignatureError Unit :=
  match sig.find? name with
  | none => .error (.unknownLengthParam sig.name p.name name)
  | some q => require q.ty.integer?.isSome (.nonIntegerLengthParam sig.name name)

theorem checkLength_cons (sig : Signature) (p : Param) (name : String) (names : List String) :
    sig.checkLength p (name :: names) =
      sig.checkLengthName p name >>= fun _ => sig.checkLength p names := by
  rw [checkLength, checkLengthName]
  cases sig.find? name <;> rfl

theorem decides_checkLengthName (hnodup : (sig.params.map (·.name)).Nodup) (p : Param)
    (name : String) : Decides (sig.checkLengthName p name) (sig.NamesInteger name)
      (sig.LengthNameFault p name) := by
  rw [checkLengthName]
  rcases hfind : sig.find? name with _ | q
  · have habsent : ∀ q ∈ sig.params, q.name ≠ name := by
      intro q hq hname
      simpa [hname] using List.find?_eq_none.1 hfind q hq
    refine ⟨iff_of_false nofun ?_, fun e => ?_⟩
    · rintro ⟨q, hq, hname, _⟩
      exact habsent q hq hname
    · constructor
      · intro he
        cases he
        exact .unknown habsent
      · intro he
        cases he with
        | unknown => rfl
        | nonInteger hq hname => exact absurd hname (habsent _ hq)
  · have hq : q ∈ sig.params := List.mem_of_find?_eq_some hfind
    have hname : q.name = name := by simpa using List.find?_some hfind
    have honly : ∀ r ∈ sig.params, r.name = name → r = q := by
      rintro r hr rfl
      exact Option.some.inj ((find?_of_nodup hnodup hr).symm.trans hfind)
    refine (decides_require _ _).congr ?_ fun e => ?_
    · rw [ValueType.isSome_integer?_iff]
      constructor
      · exact fun hinteger => ⟨q, hq, hname, hinteger⟩
      · rintro ⟨r, hr, hsame, hinteger⟩
        exact honly r hr hsame ▸ hinteger
    · rw [← Bool.not_eq_true, ValueType.isSome_integer?_iff]
      constructor
      · rintro ⟨hinteger, rfl⟩
        exact .nonInteger hq hname hinteger
      · intro he
        cases he with
        | unknown habsent => exact absurd hname (habsent q hq)
        | nonInteger hr hsame hinteger => exact ⟨honly _ hr hsame ▸ hinteger, rfl⟩

theorem decides_checkLength (hnodup : (sig.params.map (·.name)).Nodup) (p : Param)
    (names : List String) :
    Decides (sig.checkLength p names) (∀ name ∈ names, sig.NamesInteger name)
      (FirstFault (fun _ => sig.NamesInteger) (fun _ => sig.LengthNameFault p) names) := by
  refine Decides.congr ?_ allFine_iff_forall fun _ => Iff.rfl
  induction names with
  | nil => exact .nil ()
  | cons name names ih =>
      rw [checkLength_cons]
      exact .cons (decides_checkLengthName hnodup p name) fun _ _ => ih

theorem sizes_iff {name : String} : sig.Sizes name ↔ name ∈ sig.dimensions := by
  rw [mem_dimensions]
  exact exists_congr fun q => and_congr_right fun _ => ValueType.mem_lengthNames_iff.symm

theorem decides_checkRange (sig : Signature) (p : Param) :
    Decides (sig.checkRange p) (sig.RangeSound p) (sig.RangeFault p) := by
  rw [checkRange]
  rcases hrange : p.range with _ | r
  · have hsound : sig.RangeSound p := by simp [RangeSound, hrange]
    refine (Decides.ok ()).congr (iff_of_true trivial hsound) fun e => iff_of_false not_false ?_
    intro he
    cases he with
    | nonInteger hsome => simp [hrange] at hsome
    | invalid _ hunsound => exact hunsound hsound
  · have hends : (r.min ≤ r.max && !(p.name ∈ sig.dimensions && r.min < 0)) = true ↔
        r.min ≤ r.max ∧ (sig.Sizes p.name → 0 ≤ r.min) := by
      simp [sizes_iff, imp_iff_not_or]
    have hsound : sig.RangeSound p ↔
        p.ty.IsInteger ∧ r.min ≤ r.max ∧ (sig.Sizes p.name → 0 ≤ r.min) := by
      simp [RangeSound, hrange]
    refine ((decides_require _ _).bind fun _ _ => decides_require _ _).congr ?_ fun e => ?_
    · rw [ValueType.isSome_integer?_iff, hends, hsound]
    · rw [← Bool.not_eq_true, ← Bool.not_eq_true, ValueType.isSome_integer?_iff, hends]
      constructor
      · rintro (⟨hinteger, rfl⟩ | ⟨hinteger, hbad, rfl⟩)
        · exact .nonInteger (by rw [hrange]; rfl) hinteger
        · exact .invalid hinteger fun h => hbad (hsound.1 h).2
      · intro he
        cases he with
        | nonInteger _ hinteger => exact .inl ⟨hinteger, rfl⟩
        | invalid hinteger hbad =>
            exact .inr ⟨hinteger, fun h => hbad (hsound.2 ⟨hinteger, h⟩), rfl⟩

theorem decides_checkSize (sig : Signature) (p : Param) :
    Decides (sig.checkSize p) (SizeSound p) (sig.SizeFault p) := by
  rw [checkSize]
  split
  · next fields hty =>
    refine (decides_require _ _).congr ?_ fun e => ?_
    · simp [SizeSound, hty]
    · constructor
      · rintro ⟨hempty, rfl⟩
        exact .emptyAggregate (by simpa [hty] using hempty)
      · intro he
        cases he with
        | emptyAggregate hnone =>
            rw [hty] at hnone
            cases hnone
            exact ⟨rfl, rfl⟩
        | zeroSized hzero => simp [hty] at hzero
  · next size isMutable hty =>
    refine (decides_require _ _).congr ?_ fun e => ?_
    · simp [SizeSound, hty]
    · constructor
      · rintro ⟨hzero, rfl⟩
        have hsize : size = 0 := by simpa using hzero
        exact .zeroSized (hsize ▸ hty)
      · intro he
        cases he with
        | emptyAggregate hnone => simp [hty] at hnone
        | zeroSized hzero =>
            rw [hty] at hzero
            cases hzero
            exact ⟨rfl, rfl⟩
  · next hfields hbytes =>
    refine (Decides.ok ()).congr (iff_of_true trivial ?_) fun e => iff_of_false not_false ?_
    · exact ⟨hfields [], fun isMutable => hbytes 0 isMutable⟩
    · intro he
      cases he with
      | emptyAggregate hnone => exact hfields [] hnone
      | zeroSized hzero => exact hbytes 0 _ hzero

theorem ignoreFits_iff (p : Param) : ignoreFits p = true ↔ IgnoreSound p := by
  have hnone : p.ignore = [] → IgnoreSound p := by
    intro hempty r hr
    simp [hempty] at hr
  rw [ignoreFits, Bool.or_eq_true, List.isEmpty_iff]
  cases hty : p.ty with
  | bytes size isMutable =>
      have hall : p.ignore.all (fun r => r.finish ≤ size && 0 < r.length) = true ↔
          IgnoreSound p := by
        simp only [List.all_eq_true, Bool.and_eq_true, decide_eq_true_eq]
        simp [IgnoreSound, ByteRange.finish, hty, and_comm]
      exact (or_congr_right hall).trans (or_iff_right_of_imp hnone)
  | buffer elem length isMutable =>
      have hall : p.ignore.all (fun r => 0 < r.length) = true ↔ IgnoreSound p := by
        simp [IgnoreSound, hty]
      exact (or_congr_right hall).trans (or_iff_right_of_imp hnone)
  | scalar | cstring | aggregate =>
      constructor
      · rintro (hempty | hfalse)
        · exact hnone hempty
        · cases hfalse
      · intro hsound
        refine .inl (List.eq_nil_iff_forall_not_mem.2 ?_)
        intro r hr
        simpa [hty] using hsound r hr

/-- The checks of one parameter pass if it is admissible and report its fault. -/
theorem decides_checkParam (hnodup : (sig.params.map (·.name)).Nodup) (p : Param) :
    Decides (sig.checkParam p) (sig.Admissible p) (sig.ParamFault p) := by
  have hlength : Decides (sig.checkLength p p.ty.lengthNames) (sig.LengthSound p)
      (FirstFault (fun _ => sig.NamesInteger) (fun _ => sig.LengthNameFault p)
        p.ty.lengthNames) := by
    refine (decides_checkLength hnodup p p.ty.lengthNames).congr ?_ fun _ => Iff.rfl
    exact forall_congr' fun name => by rw [ValueType.mem_lengthNames_iff]
  have hchecks := hlength.bind fun _ _ => (decides_checkRange sig p).bind fun _ _ =>
    (decides_require (!p.nullable || p.ty.isPointer) (.nullableNonPointer sig.name p.name)).bind
      fun _ _ => (decides_checkSize sig p).bind fun _ _ =>
        decides_require (ignoreFits p) (SignatureError.invalidIgnoreRange sig.name p.name)
  have hnull : (!p.nullable || p.ty.isPointer) = true ↔ NullSound p := by
    simp [NullSound, imp_iff_not_or]
  refine hchecks.congr ?_ fun e => ?_
  · rw [hnull, ignoreFits_iff]
    constructor
    · rintro ⟨hl, hr, hn, hs, hi⟩
      exact ⟨hl, hr, hn, hs, hi⟩
    · rintro ⟨hl, hr, hn, hs, hi⟩
      exact ⟨hl, hr, hn, hs, hi⟩
  · rw [← Bool.not_eq_true, ← Bool.not_eq_true, hnull, ignoreFits_iff]
    constructor
    · rintro (he | ⟨hl, he | ⟨hr, ⟨he, rfl⟩ | ⟨hn, he | ⟨hs, he, rfl⟩⟩⟩⟩)
      · exact .length he
      · exact .range hl he
      · exact .null hl hr he
      · exact .size hl hr hn he
      · exact .ignore hl hr hn hs he
    · intro he
      cases he with
      | length he => exact .inl he
      | range hl he => exact .inr ⟨hl, .inl he⟩
      | null hl hr he => exact .inr ⟨hl, .inr ⟨hr, .inl ⟨he, rfl⟩⟩⟩
      | size hl hr hn he => exact .inr ⟨hl, .inr ⟨hr, .inr ⟨hn, .inl he⟩⟩⟩
      | ignore hl hr hn hs he => exact .inr ⟨hl, .inr ⟨hr, .inr ⟨hn, .inr ⟨hs, he, rfl⟩⟩⟩⟩

theorem decides_checkParams (hnodup : (sig.params.map (·.name)).Nodup) (ps : List Param) :
    Decides (sig.checkParams ps) (∀ p ∈ ps, sig.Admissible p)
      (FirstFault (fun _ => sig.Admissible) (fun _ => sig.ParamFault) ps) := by
  refine Decides.congr ?_ allFine_iff_forall fun _ => Iff.rfl
  induction ps with
  | nil => exact .nil ()
  | cons p ps ih => exact .cons (decides_checkParam hnodup p) fun _ _ => ih

end Params

section Names

/-- A name behind others that have been used. -/
def FreshName (seen : List String) (before : List Param) (p : Param) : Prop :=
  Text.isIdentifier p.name.toList = true ∧ p.name ∉ before.map (·.name) ++ seen

/-- The fault of a name behind others that have been used. -/
def StaleName (function : String) (seen : List String) (before : List Param) (p : Param)
    (e : SignatureError) : Prop :=
  (Text.isIdentifier p.name.toList = false ∧ e = .invalidName p.name) ∨
    Text.isIdentifier p.name.toList = true ∧ p.name ∈ before.map (·.name) ++ seen ∧
      e = .duplicateParam function p.name

theorem mem_used_cons {name : String} {p : Param} {before : List Param} {seen : List String} :
    name ∈ (p :: before).map (·.name) ++ seen ↔
      name ∈ before.map (·.name) ++ (p.name :: seen) := by
  simp only [List.map_cons, List.cons_append, List.mem_cons, List.mem_append]
  exact or_left_comm

theorem freshName_cons (seen : List String) (p : Param) :
    (fun before => FreshName seen (p :: before)) = FreshName (p.name :: seen) := by
  funext before q
  rw [FreshName, mem_used_cons, FreshName]

theorem staleName_cons (function : String) (seen : List String) (p : Param) :
    (fun before => StaleName function seen (p :: before)) =
      StaleName function (p.name :: seen) := by
  funext before q e
  rw [StaleName, mem_used_cons, StaleName]

theorem decides_checkNames (function : String) (seen : List String) (ps : List Param) :
    Decides (checkNames function seen ps) (AllFine (FreshName seen) ps)
      (FirstFault (FreshName seen) (StaleName function seen) ps) := by
  induction ps generalizing seen with
  | nil => exact .nil ()
  | cons p ps ih =>
      have hfirst := (decides_require (Text.isIdentifier p.name.toList)
        (SignatureError.invalidName p.name)).bind fun _ _ =>
          decides_require (p.name ∉ seen) (SignatureError.duplicateParam function p.name)
      rw [checkNames, ← bind_assoc]
      refine .cons (hfirst.congr ?_ fun e => ?_) fun _ _ => ?_
      · simp [FreshName]
      · simp [StaleName]
      · rw [freshName_cons, staleName_cons]
        exact ih (p.name :: seen)

theorem wellNamed_cons_iff {p : Param} {ps : List Param} : WellNamed (p :: ps) ↔
    Text.isIdentifier p.name.toList = true ∧ (∀ q ∈ ps, q.name ≠ p.name) ∧ WellNamed ps := by
  have hnew : p.name ∉ ps.map (·.name) ↔ ∀ q ∈ ps, q.name ≠ p.name := by simp
  constructor
  · rintro ⟨hidentifiers, hnodup⟩
    rw [List.forall_mem_cons] at hidentifiers
    rw [List.map_cons, List.nodup_cons] at hnodup
    exact ⟨hidentifiers.1, hnew.1 hnodup.1, hidentifiers.2, hnodup.2⟩
  · rintro ⟨hidentifier, hdifferent, hidentifiers, hnodup⟩
    exact ⟨List.forall_mem_cons.2 ⟨hidentifier, hidentifiers⟩,
      List.nodup_cons.2 ⟨hnew.2 hdifferent, hnodup⟩⟩

theorem allFine_freshName_iff {seen : List String} {ps : List Param} :
    AllFine (FreshName seen) ps ↔ WellNamed ps ∧ ∀ p ∈ ps, p.name ∉ seen := by
  induction ps generalizing seen with
  | nil => exact iff_of_true allFine_nil ⟨⟨by simp, by simp⟩, by simp⟩
  | cons p ps ih =>
      have hunseen : (∀ q ∈ ps, q.name ∉ p.name :: seen) ↔
          (∀ q ∈ ps, q.name ≠ p.name) ∧ ∀ q ∈ ps, q.name ∉ seen := by
        simp only [List.mem_cons, not_or, ← forall_and]
      rw [allFine_cons_iff, freshName_cons, ih, wellNamed_cons_iff, hunseen, List.forall_mem_cons,
        FreshName, List.map_nil, List.nil_append]
      constructor
      · rintro ⟨⟨hidentifier, hfirst⟩, hnamed, hdifferent, hrest⟩
        exact ⟨⟨hidentifier, hdifferent, hnamed⟩, hfirst, hrest⟩
      · rintro ⟨⟨hidentifier, hdifferent, hnamed⟩, hfirst, hrest⟩
        exact ⟨⟨hidentifier, hfirst⟩, hnamed, hdifferent, hrest⟩

theorem allFine_names_iff {ps : List Param} : AllFine (FreshName []) ps ↔ WellNamed ps := by
  simp [allFine_freshName_iff]

theorem nameFault_iff {e : SignatureError} : sig.NameFault e ↔
    (Text.isIdentifier sig.name.toList = false ∧ e = .invalidName sig.name) ∨
      Text.isIdentifier sig.name.toList = true ∧
        FirstFault (FreshName []) (StaleName sig.name []) sig.params e := by
  constructor
  · intro he
    cases he with
    | function hname => exact .inl ⟨hname, rfl⟩
    | param hname hsplit hbefore hparam =>
        exact .inr ⟨hname, _, _, _, hsplit, allFine_names_iff.2 hbefore, .inl ⟨hparam, rfl⟩⟩
    | repeated hname hsplit hbefore hparam hused =>
        have hmem := List.mem_append_left [] hused
        exact .inr ⟨hname, _, _, _, hsplit, allFine_names_iff.2 hbefore, .inr ⟨hparam, hmem, rfl⟩⟩
  · rintro (⟨hname, rfl⟩ | ⟨hname, before, p, after, hsplit, hbefore, ⟨hparam, rfl⟩ | hstale⟩)
    · exact .function hname
    · exact .param hname hsplit (allFine_names_iff.1 hbefore) hparam
    · obtain ⟨hparam, hused, rfl⟩ := hstale
      rw [List.append_nil] at hused
      exact .repeated hname hsplit (allFine_names_iff.1 hbefore) hparam hused

end Names

/-- A signature passes exactly if the function and its parameters have identifiers for names, no
two parameters share one, and every parameter is admissible.  The fault reported is that of a name
whenever there is one.  Otherwise it is the fault of the first parameter, in the order of
declaration, that is not admissible. -/
theorem validate_exact (sig : Signature) :
    (sig.validate = .ok () ↔ Text.isIdentifier sig.name.toList = true ∧ WellNamed sig.params ∧
      ∀ p ∈ sig.params, sig.Admissible p) ∧
    ∀ e, sig.validate = .error e ↔ sig.NameFault e ∨
      (Text.isIdentifier sig.name.toList = true ∧ WellNamed sig.params) ∧
        ∃ before p after, sig.params = before ++ p :: after ∧
          (∀ q ∈ before, sig.Admissible q) ∧ sig.ParamFault p e := by
  have hchecks : Decides sig.validate _ _ := (decides_require (Text.isIdentifier sig.name.toList)
    (SignatureError.invalidName sig.name)).bind fun _ _ =>
      (decides_checkNames sig.name [] sig.params).bind fun _ hnames =>
        decides_checkParams (nodup_of_checkNames hnames).1 sig.params
  constructor
  · rw [hchecks.eq_ok_iff, allFine_names_iff]
  · intro e
    have hfirst : FirstFault (fun _ => sig.Admissible) (fun _ => sig.ParamFault) sig.params e ↔
        ∃ before p after, sig.params = before ++ p :: after ∧
          (∀ q ∈ before, sig.Admissible q) ∧ sig.ParamFault p e := by
      simp only [FirstFault, allFine_iff_forall]
    rw [hchecks.error_iff, allFine_names_iff, hfirst, nameFault_iff, and_or_left, ← or_assoc,
      ← and_assoc]

-- A name that is used again is reported before the empty object that stands in front of it.
example : (⟨"f", [⟨"a", .bytes 0 false, none, false, []⟩, ⟨"a", .cstring false, none, false, []⟩],
    .void⟩ : Signature).validate = .error (.duplicateParam "f" "a") := by decide

end Signature

end Counterpart
