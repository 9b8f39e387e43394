/-
What a signature that passes validation is known to be: its parameters have different
names, and each of them has passed its own checks.
-/
import Counterpart.Proofs.Except
import Counterpart.Proofs.Forall
import Counterpart.Signature.Validate

namespace Counterpart

theorem require_eq_ok_iff {ε : Type} {condition : Bool} {error : ε} {u : Unit} :
    require condition error = .ok u ↔ condition = true := by
  cases condition
  · simp [require]
  · simp [require]

theorem mem_insertName {name other : String} {names : List String} :
    name ∈ insertName other names ↔ name = other ∨ name ∈ names := by
  induction names with
  | nil => simp [insertName]
  | cons first rest ih =>
      simp only [insertName]
      split
      · simp
      · split
        · next heq => simp [heq]
        · rw [List.mem_cons, ih, List.mem_cons]
          exact or_left_comm

theorem mem_sortNames {name : String} {names : List String} :
    name ∈ sortNames names ↔ name ∈ names := by
  induction names with
  | nil => simp [sortNames]
  | cons first rest ih =>
      have hfold : sortNames (first :: rest) = insertName first (sortNames rest) := rfl
      rw [hfold, mem_insertName, ih, List.mem_cons]

theorem pairwise_insertName {name : String} {names : List String}
    (hnames : names.Pairwise (· < ·)) : (insertName name names).Pairwise (· < ·) := by
  induction names with
  | nil => exact List.pairwise_singleton _ name
  | cons first rest ih =>
      obtain ⟨hfirst, hrest⟩ := List.pairwise_cons.1 hnames
      simp only [insertName]
      split
      · next hlt =>
        refine .cons (List.forall_mem_cons.2 ⟨hlt, ?_⟩) hnames
        exact fun other hother => String.lt_trans hlt (hfirst other hother)
      · next hnot =>
        split
        · exact hnames
        · next hne =>
          refine .cons ?_ (ih hrest)
          intro other hother
          rcases mem_insertName.1 hother with rfl | hother
          · exact Std.lt_of_le_of_ne (String.not_lt.1 hnot) (Ne.symm hne)
          · exact hfirst other hother

/-- Sorted names ascend, so that none occurs twice. -/
theorem pairwise_sortNames (names : List String) : (sortNames names).Pairwise (· < ·) := by
  induction names with
  | nil => exact List.Pairwise.nil
  | cons first rest ih => exact pairwise_insertName ih

theorem ValueType.exists_integer_of_isSome {ty : ValueType}
    (hinteger : ty.integer?.isSome = true) : ∃ width signed, ty = .scalar (.int width signed) := by
  unfold ValueType.integer? at hinteger
  split at hinteger
  · exact ⟨_, _, rfl⟩
  · cases hinteger

namespace Signature

variable {sig : Signature} {p : Param}

theorem mem_dimensions {name : String} :
    name ∈ sig.dimensions ↔ ∃ p ∈ sig.params, name ∈ p.ty.lengthNames := by
  rw [dimensions, mem_sortNames, List.mem_flatMap]

theorem nodup_of_checkNames {function : String} {seen : List String} {ps : List Param}
    (hcheck : checkNames function seen ps = .ok ()) :
    (ps.map (·.name)).Nodup ∧ ∀ p ∈ ps, p.name ∉ seen := by
  induction ps generalizing seen with
  | nil => simp
  | cons p ps ih =>
      obtain ⟨_, _, hcheck⟩ := bind_eq_ok_iff.1 hcheck
      obtain ⟨_, hunseen, hrest⟩ := bind_eq_ok_iff.1 hcheck
      have hunseen : p.name ∉ seen := by simpa using require_eq_ok_iff.1 hunseen
      obtain ⟨hnodup, hnames⟩ := ih hrest
      constructor
      · rw [List.map_cons, List.nodup_cons]
        refine ⟨?_, hnodup⟩
        intro hmem
        obtain ⟨q, hq, hname⟩ := List.mem_map.1 hmem
        exact hnames q hq (hname ▸ List.mem_cons_self)
      · intro q hq
        rcases List.mem_cons.1 hq with rfl | hq
        · exact hunseen
        · intro hmem
          exact hnames q hq (List.mem_cons_of_mem _ hmem)

theorem isIdentifier_of_checkNames {function : String} {seen : List String} {ps : List Param}
    (hcheck : checkNames function seen ps = .ok ()) :
    ∀ p ∈ ps, Text.isIdentifier p.name.toList = true := by
  induction ps generalizing seen with
  | nil => exact List.forall_mem_nil _
  | cons p ps ih =>
      obtain ⟨_, hname, hcheck⟩ := bind_eq_ok_iff.1 hcheck
      obtain ⟨_, _, hrest⟩ := bind_eq_ok_iff.1 hcheck
      exact List.forall_mem_cons.2 ⟨require_eq_ok_iff.1 hname, ih hrest⟩

theorem checkParam_of_checkParams {ps : List Param} (hcheck : checkParams sig ps = .ok ()) :
    ∀ p ∈ ps, checkParam sig p = .ok () := by
  induction ps with
  | nil => simp
  | cons p ps ih =>
      obtain ⟨_, hfirst, hrest⟩ := bind_eq_ok_iff.1 hcheck
      intro q hq
      rcases List.mem_cons.1 hq with rfl | hq
      · exact hfirst
      · exact ih hrest q hq

theorem nodup_of_validate (hvalid : sig.validate = .ok ()) :
    (sig.params.map (·.name)).Nodup := by
  obtain ⟨_, _, hvalid⟩ := bind_eq_ok_iff.1 hvalid
  obtain ⟨_, hnames, _⟩ := bind_eq_ok_iff.1 hvalid
  exact (nodup_of_checkNames hnames).1

/-- The function and its parameters have identifiers for names. -/
theorem isIdentifier_of_validate (hvalid : sig.validate = .ok ()) :
    Text.isIdentifier sig.name.toList = true ∧
      ∀ p ∈ sig.params, Text.isIdentifier p.name.toList = true := by
  obtain ⟨_, hname, hvalid⟩ := bind_eq_ok_iff.1 hvalid
  obtain ⟨_, hnames, _⟩ := bind_eq_ok_iff.1 hvalid
  exact ⟨require_eq_ok_iff.1 hname, isIdentifier_of_checkNames hnames⟩

theorem checkParam_of_validate (hvalid : sig.validate = .ok ()) (hp : p ∈ sig.params) :
    checkParam sig p = .ok () := by
  obtain ⟨_, _, hvalid⟩ := bind_eq_ok_iff.1 hvalid
  obtain ⟨_, _, hparams⟩ := bind_eq_ok_iff.1 hvalid
  exact checkParam_of_checkParams hparams p hp

/-- A parameter is found by its name. -/
theorem find?_of_nodup (hnodup : (sig.params.map (·.name)).Nodup) (hp : p ∈ sig.params) :
    sig.find? p.name = some p :=
  find?_of_nodup_map hnodup hp

theorem find?_name (hvalid : sig.validate = .ok ()) (hp : p ∈ sig.params) :
    sig.find? p.name = some p :=
  find?_of_nodup (nodup_of_validate hvalid) hp

theorem integer_of_checkLength {names : List String} (hcheck : checkLength sig p names = .ok ())
    {name : String} (hname : name ∈ names) :
    ∃ q, sig.find? name = some q ∧ q.ty.integer?.isSome = true := by
  induction names with
  | nil => simp at hname
  | cons first rest ih =>
      simp only [checkLength] at hcheck
      split at hcheck
      · cases hcheck
      · next q hfind =>
          obtain ⟨_, hinteger, hrest⟩ := bind_eq_ok_iff.1 hcheck
          rcases List.mem_cons.1 hname with rfl | hname
          · exact ⟨q, hfind, require_eq_ok_iff.1 hinteger⟩
          · exact ih hrest hname

/-- A name in the length of a buffer is that of an integer parameter. -/
theorem exists_integer_of_mem_dimensions (hvalid : sig.validate = .ok ()) {name : String}
    (hname : name ∈ sig.dimensions) :
    ∃ q ∈ sig.params, q.name = name ∧ ∃ width signed, q.ty = .scalar (.int width signed) := by
  obtain ⟨p, hp, hlength⟩ := mem_dimensions.1 hname
  obtain ⟨_, hcheck, _⟩ := bind_eq_ok_iff.1 (checkParam_of_validate hvalid hp)
  obtain ⟨q, hfind, hinteger⟩ := integer_of_checkLength hcheck hlength
  exact ⟨q, List.mem_of_find?_eq_some hfind, by simpa using List.find?_some hfind,
    ValueType.exists_integer_of_isSome hinteger⟩

/-- A parameter that sizes buffers is an integer. -/
theorem integer_of_mem_dimensions (hvalid : sig.validate = .ok ()) (hp : p ∈ sig.params)
    (hname : p.name ∈ sig.dimensions) : ∃ width signed, p.ty = .scalar (.int width signed) := by
  obtain ⟨q, hq, hsame, hinteger⟩ := exists_integer_of_mem_dimensions hvalid hname
  have hfind := find?_name hvalid hq
  rw [hsame, find?_name hvalid hp] at hfind
  cases hfind
  exact hinteger

/-- A range is not empty, and that of a parameter in the length of a buffer starts at zero
or above. -/
theorem range_of_validate (hvalid : sig.validate = .ok ()) (hp : p ∈ sig.params)
    {r : ValueRange} (hrange : p.range = some r) :
    r.min ≤ r.max ∧ (p.name ∈ sig.dimensions → 0 ≤ r.min) := by
  obtain ⟨_, _, hcheck⟩ := bind_eq_ok_iff.1 (checkParam_of_validate hvalid hp)
  obtain ⟨_, hcheck, _⟩ := bind_eq_ok_iff.1 hcheck
  simp only [checkRange, hrange] at hcheck
  obtain ⟨_, _, hends⟩ := bind_eq_ok_iff.1 hcheck
  have hends := require_eq_ok_iff.1 hends
  simp only [Bool.and_eq_true, decide_eq_true_eq, Bool.not_eq_true', Bool.and_eq_false_iff,
    decide_eq_false_iff_not] at hends
  refine ⟨hends.1, ?_⟩
  intro hdim
  rcases hends.2 with hnot | hnonneg
  · exact absurd hdim hnot
  · omega

/-- Only integer parameters have a range. -/
theorem exists_integer_of_range (hvalid : sig.validate = .ok ()) (hp : p ∈ sig.params)
    {r : ValueRange} (hrange : p.range = some r) :
    ∃ width signed, p.ty = .scalar (.int width signed) := by
  obtain ⟨_, _, hcheck⟩ := bind_eq_ok_iff.1 (checkParam_of_validate hvalid hp)
  obtain ⟨_, hcheck, _⟩ := bind_eq_ok_iff.1 hcheck
  simp only [checkRange, hrange] at hcheck
  obtain ⟨_, hinteger, _⟩ := bind_eq_ok_iff.1 hcheck
  exact ValueType.exists_integer_of_isSome (require_eq_ok_iff.1 hinteger)

/-- Only pointers may be null. -/
theorem isPointer_of_nullable (hvalid : sig.validate = .ok ()) (hp : p ∈ sig.params)
    (hnullable : p.nullable = true) : p.ty.isPointer = true := by
  obtain ⟨_, _, hcheck⟩ := bind_eq_ok_iff.1 (checkParam_of_validate hvalid hp)
  obtain ⟨_, _, hcheck⟩ := bind_eq_ok_iff.1 hcheck
  obtain ⟨_, hpointer, _⟩ := bind_eq_ok_iff.1 hcheck
  simpa [hnullable] using require_eq_ok_iff.1 hpointer

end Signature

end Counterpart
