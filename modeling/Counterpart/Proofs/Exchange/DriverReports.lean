/-
What a driver reports, as its text tells it.  The mark of the report stands once in every line that
prints one, and what stands behind it are the forms of the result and the memory of the mutable
pointers, each of which the reader of reports accepts.
-/
import Counterpart.Proofs.Exchange.DriverLines
import Counterpart.Proofs.Exchange.RoundTrip

namespace Counterpart.Driver

open Text DriverReport

variable {sig : Signature} {guardBytes : Nat}

/-- What lines say behind the mark of a report. -/
def reports (lines : List Line) : List String :=
  lines.filterMap Line.report?

theorem notMem_of_isCode {text : String} (htext : IsCode text) : '@' ∉ text.toList :=
  fun hmem => (htext _ hmem).1 rfl

theorem dropFront?_mark (rest back : List Char) :
    dropFront? (mark ++ rest) (mark ++ back) = dropFront? rest back := rfl

/-- A mark is found in a line at the one place where a report is opened. -/
theorem found_text {line : Line} (hplain : line.Plain) (rest : List Char) :
    found (dropFront? (mark ++ rest)) line.text.toList =
      line.report?.toList.filterMap fun back => dropFront? rest back.toList := by
  cases line with
  | code text => exact found_eq_nil_of_notMem (notMem_of_isCode hplain) _
  | report front back =>
      have hsilent := silent_of_notMem (notMem_of_isCode hplain.1)
        ('@' :: 'E' :: 'Q' :: ' ' :: rest)
      have htext : (Line.report front back).text.toList =
          front.toList ++ (mark ++ back.toList) := by
        rw [Line.text, String.toList_append, String.toList_append, List.append_assoc]
        rfl
      have hback : '@' ∉ 'E' :: 'Q' :: ' ' :: back.toList := by
        simp [notMem_of_isCode hplain.2]
      -- The second of the two signs opens no mark, since a letter follows it.
      have hlate : found (dropFront? (mark ++ rest)) ('@' :: 'E' :: 'Q' :: ' ' :: back.toList) =
          [] := (found_cons_of_none rfl).trans (found_eq_nil_of_notMem hback _)
      rw [htext]
      refine ((hsilent _).trans (found_cons _ _)).trans ?_
      refine (congrArg (_ ++ ·) hlate).trans ?_
      rw [List.append_nil]
      change (dropFront? (mark ++ rest) (mark ++ back.toList)).toList = _
      rw [dropFront?_mark]
      cases hdrop : dropFront? rest back.toList <;> simp [Line.report?, hdrop]

/-- Two lines of one text report the same. -/
theorem report?_eq_of_text_eq {line other : Line} (hline : line.Plain) (hother : other.Plain)
    (htext : line.text = other.text) : line.report? = other.report? := by
  have hfound := (found_text hline []).symm.trans ((congrArg _ (congrArg _ htext)).trans
    (found_text hother []))
  cases hfirst : line.report? <;> cases hsecond : other.report? <;>
    simp_all [dropFront?, String.toList_inj]

/-- A mark without line feeds stands in a text of lines if it stands in one of them. -/
theorem infix_unlines_iff {stop : List Char} (hstop : '\n' ∉ stop) (hne : stop ≠ [])
    (lines : List Line) : stop <:+: (unlines (lines.map Line.text)).toList ↔
      ∃ line ∈ lines, stop <:+: line.text.toList := by
  induction lines with
  | nil =>
      have hnil : (unlines []).toList = [] := rfl
      rw [List.map_nil, hnil, List.infix_nil]
      simp [hne]
  | cons line lines ih =>
      rw [List.map_cons, unlines_cons, String.toList_append, String.toList_append,
        List.append_assoc]
      change stop <:+: line.text.toList ++ '\n' :: (unlines (lines.map Line.text)).toList ↔ _
      rw [infix_append_cons_iff hstop hne, ih, List.exists_mem_cons_iff]

theorem infix_source_iff (hvalid : sig.validate = .ok ()) {rest : List Char} (hrest : '\n' ∉ rest) :
    mark ++ rest <:+: (source sig guardBytes).toList ↔
      ∃ back ∈ reports (sourceLines sig guardBytes), rest <+: back.toList := by
  have hplain := plain_sourceLines hvalid guardBytes
  have hmark : '\n' ∉ mark ++ rest := by
    simp only [List.mem_append, not_or]
    exact ⟨by decide, hrest⟩
  have hne : mark ++ rest ≠ [] := List.cons_ne_nil _ _
  rw [source_eq, infix_unlines_iff hmark hne]
  simp only [reports, List.mem_filterMap]
  constructor
  · rintro ⟨line, hline, hinfix⟩
    obtain ⟨behind, hbehind⟩ := infix_iff_found.1 hinfix
    rw [found_text (hplain line hline)] at hbehind
    obtain ⟨back, hback, hdrop⟩ := List.mem_filterMap.1 hbehind
    exact ⟨back, ⟨line, hline, Option.mem_toList.1 hback⟩, behind, (dropFront?_eq_some hdrop).symm⟩
  · rintro ⟨back, ⟨line, hline, hback⟩, behind, hbehind⟩
    refine ⟨line, hline, infix_iff_found.2 ⟨behind, ?_⟩⟩
    rw [found_text (hplain line hline), List.mem_filterMap]
    exact ⟨back, Option.mem_toList.2 hback, dropFront?_eq_some_iff.2 hbehind.symm⟩

section Memory

/-- What stands behind the mark of the report of a parameter. -/
def memoryBack (i : Nat) : String :=
  s!"MEM {i} %llu \", (unsigned long long)(a{i}_len + EQ_GUARD));"

theorem mem_reports_memory {back : String} :
    back ∈ reports ((numbered sig).flatMap memoryReport) ↔
      ∃ i, isMutableAt sig i = true ∧ back = memoryBack i := by
  simp only [reports, List.mem_filterMap, List.mem_flatMap, Prod.exists, mem_numbered_iff]
  constructor
  · rintro ⟨line, ⟨i, p, hp, hline⟩, hback⟩
    simp only [memoryReport] at hline
    split at hline
    · next hmutable =>
      simp only [List.mem_cons, List.not_mem_nil, or_false] at hline
      rcases hline with rfl | rfl | rfl | rfl | rfl
      all_goals cases hback
      exact ⟨i, by simp [isMutableAt, hp, hmutable], rfl⟩
    · cases hline
  · rintro ⟨i, hat, rfl⟩
    obtain ⟨p, hp, hmutable⟩ := exists_param_of_isMutableAt hat
    refine ⟨.report "        printf(\"" (memoryBack i), ⟨i, p, hp, ?_⟩, rfl⟩
    simp only [memoryReport, hmutable, if_true]
    exact List.mem_cons_of_mem _ List.mem_cons_self

theorem reports_append (front back : List Line) :
    reports (front ++ back) = reports front ++ reports back :=
  List.filterMap_append

theorem reports_code (texts : List String) : reports (texts.map .code) = [] := by
  rw [reports, List.filterMap_map, List.filterMap_eq_nil_iff]
  exact fun _ _ => rfl

theorem reports_sourceLines : reports (sourceLines sig guardBytes) =
    "BADINPUT\\n\");" :: (reports (callLines sig) ++
      reports ((numbered sig).flatMap memoryReport) ++ ["END\\n\");"]) := by
  simp only [sourceLines, headLines, preludeLines, reports_append, reports_code]
  rfl

theorem exists_memoryBack (i : Nat) :
    ∃ rest, (memoryBack i).toList = "MEM ".toList ++ (decimal i ++ ' ' :: rest) := by
  have hblank (rest : String) : " %llu \", (unsigned long long)(a" ++ rest =
      " " ++ ("%llu \", (unsigned long long)(a" ++ rest) := by
    rw [← String.append_assoc]
    exact congrArg (· ++ rest) (append_of_ofList rfl)
  have hback : memoryBack i = "MEM " ++ (toString i ++ (" " ++
      ("%llu \", (unsigned long long)(a" ++ (toString i ++ "_len + EQ_GUARD));")))) := by
    rw [← hblank]
    simp only [memoryBack, String.append_assoc]
    rfl
  rw [hback, String.toList_append, String.toList_append, String.toList_append, toList_toString]
  exact ⟨_, rfl⟩

theorem notMem_decimal {c : Char} (hc : isDecimal c = false) (n : Nat) : c ∉ decimal n := by
  intro hmem
  rw [isDecimal_of_mem_decimal hmem] at hc
  cases hc

end Memory

end Counterpart.Driver
