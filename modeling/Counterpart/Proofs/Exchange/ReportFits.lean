/-
A report that was read is one that a driver of the signature could have printed.  Each line
adds at most a result of the declared type or memory behind a mutable pointer.
-/
import Counterpart.Proofs.Except
import Counterpart.Proofs.Exchange.Printing
import Counterpart.Proofs.Scalar.Value

namespace Counterpart

open Text

namespace DriverReport

theorem length_lt_of_sizedBytes? {length : List Char} {digits : Option (List Char)}
    {content : Bytes} (hread : sizedBytes? length digits = some content) :
    content.length < 2 ^ 64 := by
  simp only [sizedBytes?, Option.bind_eq_bind, Option.bind_eq_some_iff] at hread
  obtain ⟨n, hn, found, _, hfound⟩ := hread
  split at hfound
  · next hlength =>
      cases hfound
      rw [hlength]
      exact lt_of_natBelow? hn
  · cases hfound

theorem fits_of_returnValue? {ty : ReturnType} {fields : List (List Char)}
    {value : ReturnValue} (hread : returnValue? ty fields = some value) : value.Fits ty := by
  unfold returnValue? at hread
  split at hread
  case h_1 form =>
    split at hread
    · cases hread
      exact .void
    · cases hread
  case h_2 t form digits =>
    by_cases hform : form = if t.isInteger then ['I'] else ['F']
    · rw [if_pos hform] at hread
      obtain ⟨n, _, hvalue⟩ := Option.map_eq_some_iff.1 hread
      cases hvalue
      exact .scalar _ (ScalarValue.toNat_bits_ofBits_lt t (BitVec.ofNat 64 n))
    · rw [if_neg hform] at hread
      cases hread
  case h_3 form target =>
    repeat' split at hread
    all_goals cases hread
    · exact .null
    · exact .foreign
  case h_4 form param offset =>
    split at hread
    · cases hread
    · simp only [Option.bind_eq_bind, Option.bind_eq_some_iff] at hread
      obtain ⟨p, hp, o, ho, hvalue⟩ := hread
      cases hvalue
      exact .param p o (lt_of_natBelow? hp) (lt_of_natBelow? ho)
  case h_5 form length =>
    repeat' split at hread
    · cases hread
    · cases hread
      exact .noString
    · obtain ⟨content, hcontent, hvalue⟩ := Option.map_eq_some_iff.1 hread
      cases hvalue
      exact .string content (length_lt_of_sizedBytes? hcontent)
  case h_6 form length digits =>
    split at hread
    · cases hread
    · obtain ⟨content, hcontent, hvalue⟩ := Option.map_eq_some_iff.1 hread
      cases hvalue
      exact .string content (length_lt_of_sizedBytes? hcontent)
  case h_7 => cases hread

variable {sig : Signature} {report next : DriverReport}

theorem fits_empty (sig : Signature) : empty.Fits sig where
  ret := by simp [empty]
  memory := by simp [empty]

theorem Fits.withReturn (hfits : report.Fits sig) {line : List Char}
    {fields : List (List Char)} (hread : withReturn sig line fields report = .ok next) :
    next.Fits sig := by
  unfold DriverReport.withReturn at hread
  repeat' split at hread
  · cases hread
  · cases hread
  · next value hvalue =>
      cases hread
      refine ⟨?_, hfits.memory⟩
      intro other hother
      cases hother
      exact fits_of_returnValue? hvalue

theorem exists_param_of_isMutableAt {index : Nat} (hat : isMutableAt sig index = true) :
    ∃ p, sig.params[index]? = some p ∧ p.ty.isMutablePointer = true := by
  unfold isMutableAt at hat
  cases hp : sig.params[index]? with
  | none => simp [hp] at hat
  | some p => exact ⟨p, rfl, by simpa [hp] using hat⟩

theorem Fits.withMemory (hfits : report.Fits sig) {line index length : List Char}
    {digits : Option (List Char)}
    (hread : withMemory sig line index length digits report = .ok next) : next.Fits sig := by
  unfold DriverReport.withMemory at hread
  split at hread
  · cases hread
  · next i hi =>
      split at hread
      · cases hread
      · next hat =>
        split at hread
        · cases hread
        · next content hcontent =>
          cases hread
          refine ⟨hfits.ret, ?_⟩
          intro j bytes hmem
          rcases List.mem_append.1 hmem with hbefore | hnew
          · exact hfits.memory j bytes hbefore
          · cases List.mem_singleton.1 hnew
            have hmutable := exists_param_of_isMutableAt (by simpa using hat)
            exact ⟨hmutable, lt_of_natBelow? hi, length_lt_of_sizedBytes? hcontent⟩

theorem Fits.withFields (hfits : report.Fits sig) {line : List Char}
    {fields : List (List Char)} (hread : withFields sig line report fields = .ok next) :
    next.Fits sig := by
  unfold DriverReport.withFields at hread
  split at hread
  · cases hread
  · split at hread
    · exact hfits.withReturn hread
    · split at hread
      · split at hread
        · exact hfits.withMemory hread
        · exact hfits.withMemory hread
        · cases hread
      · repeat' split at hread
        all_goals cases hread
        exact ⟨hfits.ret, hfits.memory⟩

theorem Fits.withLine (hfits : report.Fits sig) {line : List Char}
    (hread : withLine sig report line = .ok next) : next.Fits sig := by
  simp only [DriverReport.withLine] at hread
  split at hread
  · cases hread
    exact hfits
  · exact hfits.withFields hread

theorem Fits.withLines (hfits : report.Fits sig) {lines : List (List Char)}
    (hread : withLines sig report lines = .ok next) : next.Fits sig := by
  induction lines generalizing report with
  | nil =>
      cases hread
      exact hfits
  | cons line lines ih =>
      obtain ⟨between, hline, hrest⟩ := bind_eq_ok_iff.1 hread
      exact ih (hfits.withLine hline) hrest

/-- Whatever bytes were read, the report is one that fits the signature. -/
theorem fits_of_read {stdout : Bytes} (hread : read sig stdout = .ok report) :
    report.Fits sig :=
  (fits_empty sig).withLines hread

end DriverReport

end Counterpart
