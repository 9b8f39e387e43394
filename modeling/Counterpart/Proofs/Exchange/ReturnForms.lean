/-
The forms in which a driver prints a result.  For every type of a result there is a fixed list of
them, and whatever numbers are printed by a form, the reader of results takes the line.
-/
import Counterpart.Proofs.Exchange.DriverReports

namespace Counterpart.Driver

open Text DriverReport

variable {sig : Signature} {guardBytes : Nat}

/-- What a form prints for its numbers: the conversions print them, a backslash and an `n` end the
line, and every other character stands for itself. -/
inductive Prints : List Char → List Nat → List Char → Prop
  | done : Prints [] [] []
  | hexadecimal {form text : List Char} {args : List Nat} (n : Nat) (hn : n < 2 ^ 64)
      (hrest : Prints form args text) :
      Prints ('%' :: 'l' :: 'l' :: 'x' :: form) (n :: args) (hexadecimal n ++ text)
  | decimal {form text : List Char} {args : List Nat} (n : Nat) (hn : n < 2 ^ 64)
      (hrest : Prints form args text) :
      Prints ('%' :: 'l' :: 'l' :: 'u' :: form) (n :: args) (decimal n ++ text)
  | int {form text : List Char} {args : List Nat} (n : Nat) (hn : n < 2 ^ 31)
      (hrest : Prints form args text) :
      Prints ('%' :: 'd' :: form) (n :: args) (decimal n ++ text)
  | newline {form text : List Char} {args : List Nat} (hrest : Prints form args text) :
      Prints ('\\' :: 'n' :: form) args ('\n' :: text)
  | char {form text : List Char} {args : List Nat} (c : Char) (hc : c ≠ '%' ∧ c ≠ '\\')
      (hrest : Prints form args text) : Prints (c :: form) args (c :: text)

/-- A line that is printed by a form.  A form that does not end the line announces a number of
bytes, which are printed behind it. -/
inductive Printed (form : List Char) : List Char → Prop
  | ended {args : List Nat} {line : List Char} (hprints : Prints form args (line ++ ['\n'])) :
      Printed form line
  | dumped {text : List Char} (content : Bytes) (hopen : '\n' ∉ text)
      (hprints : Prints form [content.length] text) : Printed form (text ++ hexBytes content)

/-- A form by which lines are printed, and nothing but results of a type. -/
structure Accepted (ty : ReturnType) (form : List Char) : Prop where
  printed : ∃ line, Printed form line
  taken : ∀ line, Printed form line → ∃ value, returnValue? ty (words line) = some value

/-- What tells the report of a result from the others. -/
def returnMark : List Char := "RET ".toList

/-- The forms of results in the text of a driver: what stands behind the mark of a result, up to
the end of the text that is printed. -/
def returnForms (text : List Char) : List (List Char) :=
  (pieces '\n' text).flatMap fun line =>
    (found (dropFront? (mark ++ returnMark)) line).map (·.takeWhile (· ≠ '"'))

section Prints

variable {form text : List Char} {args : List Nat}

theorem prints_nil_iff : Prints [] args text ↔ args = [] ∧ text = [] := by
  constructor
  · rintro ⟨⟩
    exact ⟨rfl, rfl⟩
  · rintro ⟨rfl, rfl⟩
    exact .done

theorem prints_newline_iff : Prints ('\\' :: 'n' :: form) args text ↔
    ∃ rest, text = '\n' :: rest ∧ Prints form args rest := by
  constructor
  · intro hprints
    cases hprints with
    | newline hrest => exact ⟨_, rfl, hrest⟩
    | char _ hc _ => exact absurd rfl hc.2
  · rintro ⟨rest, rfl, hrest⟩
    exact .newline hrest

theorem prints_hexadecimal_iff : Prints ('%' :: 'l' :: 'l' :: 'x' :: form) args text ↔
    ∃ n others rest, n < 2 ^ 64 ∧ args = n :: others ∧ text = hexadecimal n ++ rest ∧
      Prints form others rest := by
  constructor
  · intro hprints
    cases hprints with
    | hexadecimal n hn hrest => exact ⟨n, _, _, hn, rfl, rfl, hrest⟩
    | char _ hc _ => exact absurd rfl hc.1
  · rintro ⟨n, others, rest, hn, rfl, rfl, hrest⟩
    exact .hexadecimal n hn hrest

theorem prints_decimal_iff : Prints ('%' :: 'l' :: 'l' :: 'u' :: form) args text ↔
    ∃ n others rest, n < 2 ^ 64 ∧ args = n :: others ∧ text = decimal n ++ rest ∧
      Prints form others rest := by
  constructor
  · intro hprints
    cases hprints with
    | decimal n hn hrest => exact ⟨n, _, _, hn, rfl, rfl, hrest⟩
    | char _ hc _ => exact absurd rfl hc.1
  · rintro ⟨n, others, rest, hn, rfl, rfl, hrest⟩
    exact .decimal n hn hrest

theorem prints_int_iff : Prints ('%' :: 'd' :: form) args text ↔
    ∃ n others rest, n < 2 ^ 31 ∧ args = n :: others ∧ text = decimal n ++ rest ∧
      Prints form others rest := by
  constructor
  · intro hprints
    cases hprints with
    | int n hn hrest => exact ⟨n, _, _, hn, rfl, rfl, hrest⟩
    | char _ hc _ => exact absurd rfl hc.1
  · rintro ⟨n, others, rest, hn, rfl, rfl, hrest⟩
    exact .int n hn hrest

theorem prints_char_iff {c : Char} (hc : c ≠ '%' ∧ c ≠ '\\') : Prints (c :: form) args text ↔
    ∃ rest, text = c :: rest ∧ Prints form args rest := by
  constructor
  · intro hprints
    cases hprints with
    | char _ _ hrest => exact ⟨_, rfl, hrest⟩
    | hexadecimal | decimal | int => exact absurd rfl hc.1
    | newline => exact absurd rfl hc.2
  · rintro ⟨rest, rfl, hrest⟩
    exact .char c hc hrest

/-- Characters without a meaning of their own are printed as they are. -/
theorem prints_append_iff {cs : List Char}
    (hcs : cs.all (fun c => c ≠ '%' ∧ c ≠ '\\') = true) :
    Prints (cs ++ form) args text ↔ ∃ rest, text = cs ++ rest ∧ Prints form args rest := by
  induction cs generalizing text with
  | nil => simp
  | cons c cs ih =>
      rw [List.all_cons, Bool.and_eq_true, decide_eq_true_eq] at hcs
      rw [List.cons_append, prints_char_iff hcs.1]
      constructor
      · rintro ⟨others, rfl, hothers⟩
        obtain ⟨rest, rfl, hrest⟩ := (ih hcs.2).1 hothers
        exact ⟨rest, rfl, hrest⟩
      · rintro ⟨rest, rfl, hrest⟩
        exact ⟨cs ++ rest, rfl, (ih hcs.2).2 ⟨rest, rfl, hrest⟩⟩

end Prints

section Accepted

variable {form : List Char} {ty : ReturnType}

/-- A form by which complete lines are printed is accepted if its lines are. -/
theorem accepted_of_lines {args : List Nat} {line : List Char}
    (hsome : Prints form args (line ++ ['\n']))
    (hlines : ∀ args text, Prints form args text →
      ∃ line, text = line ++ ['\n'] ∧ ∃ value, returnValue? ty (words line) = some value) :
    Accepted ty form where
  printed := ⟨line, .ended hsome⟩
  taken := by
    intro line hprinted
    cases hprinted with
    | ended hprints =>
        obtain ⟨other, htext, hvalue⟩ := hlines _ _ hprints
        rwa [List.append_cancel_right htext]
    | dumped content hopen hprints =>
        obtain ⟨other, rfl, _⟩ := hlines _ _ hprints
        exact absurd (List.mem_append_right other List.mem_cons_self) hopen

/-- A line with the fields of a result is taken. -/
theorem exists_returnValue? {value : ReturnValue} (hfits : value.Fits ty) :
    ∃ result, returnValue? ty (words (join [' '] value.printed)) = some result := by
  rw [words_join fun field hfield => (isField_printed value field hfield).isWord]
  exact ⟨value, returnValue?_printed hfits⟩

/-- A form without numbers is accepted if the one line that is printed by it is. -/
theorem accepted_plain {cs : List Char} (hcs : cs.all (fun c => c ≠ '%' ∧ c ≠ '\\') = true)
    (hvalue : ∃ value, returnValue? ty (words cs) = some value) :
    Accepted ty (cs ++ ['\\', 'n']) := by
  have hsome : Prints (cs ++ ['\\', 'n']) [] (cs ++ ['\n']) :=
    (prints_append_iff hcs).2 ⟨['\n'], rfl, .newline .done⟩
  refine accepted_of_lines hsome ?_
  intro args text hprints
  obtain ⟨rest, rfl, hrest⟩ := (prints_append_iff hcs).1 hprints
  obtain ⟨last, rfl, hlast⟩ := prints_newline_iff.1 hrest
  obtain ⟨_, rfl⟩ := prints_nil_iff.1 hlast
  exact ⟨cs, rfl, hvalue⟩

theorem accepted_void : Accepted .void "V\\n".toList :=
  accepted_plain (by decide) (exists_returnValue? .void)

theorem accepted_null : Accepted .pointer "P NULL\\n".toList :=
  accepted_plain (by decide) (exists_returnValue? .null)

theorem accepted_foreign : Accepted .pointer "P FOREIGN\\n".toList :=
  accepted_plain (by decide) (exists_returnValue? .foreign)

theorem accepted_noString : Accepted .cstring "S NULL\\n".toList :=
  accepted_plain (by decide) (exists_returnValue? .noString)

/-- The word of a scalar, whatever bits it has. -/
theorem accepted_scalar (ty : ScalarType) : Accepted (.scalar ty)
    ((if ty.isInteger then 'I' else 'F') :: " %llx\\n".toList) := by
  have hchar : (if ty.isInteger then 'I' else 'F') ≠ '%' ∧
      (if ty.isInteger then 'I' else 'F') ≠ '\\' := by
    split <;> decide
  have hsome : Prints ((if ty.isInteger then 'I' else 'F') :: " %llx\\n".toList) [0]
      (((if ty.isInteger then 'I' else 'F') :: ' ' :: hexadecimal 0) ++ ['\n']) :=
    .char _ hchar (.char ' ' (by decide) (.hexadecimal 0 (by decide) (.newline .done)))
  refine accepted_of_lines hsome ?_
  intro args text hprints
  rw [prints_char_iff hchar] at hprints
  simp (disch := decide) only [String.reduceToList, prints_char_iff, prints_hexadecimal_iff,
    prints_newline_iff, prints_nil_iff] at hprints
  obtain ⟨_, rfl, _, rfl, n, _, _, hn, _, rfl, _, rfl, _, rfl⟩ := hprints
  have hdigits : IsWord (hexadecimal n) := (isField_toDigits isBase_sixteen n).isWord
  have hforms : ∀ field ∈ [if ty.isInteger then ['I'] else ['F'], hexadecimal n],
      IsWord field := by
    simp only [List.forall_mem_cons]
    refine ⟨?_, hdigits, List.forall_mem_nil _⟩
    split <;> decide
  refine ⟨join [' '] [if ty.isInteger then ['I'] else ['F'], hexadecimal n], ?_, ?_⟩
  · split <;> simp [join]
  · have hread := natBelow?_hexadecimal hn
    rw [words_join hforms]
    split <;> simp_all [hexadecimal_ne_nil, returnValue?]

theorem accepted_param : Accepted .pointer "P %d %llu\\n".toList := by
  have hsome : Prints "P %d %llu\\n".toList [0, 0]
      ('P' :: ' ' :: (decimal 0 ++ ' ' :: decimal 0) ++ ['\n']) :=
    .char 'P' (by decide) (.char ' ' (by decide) (.int 0 (by decide) (.char ' ' (by decide)
      (.decimal 0 (by decide) (.newline .done)))))
  refine accepted_of_lines hsome ?_
  intro args text hprints
  simp (disch := decide) only [String.reduceToList, prints_char_iff, prints_newline_iff,
    prints_nil_iff, prints_int_iff, prints_decimal_iff] at hprints
  obtain ⟨_, rfl, _, rfl, param, _, _, hparam, _, rfl, _, rfl, offset, _, _, hoffset, _, rfl, _,
    rfl, _, rfl⟩ := hprints
  have hfits : (ReturnValue.pointer (.param param offset)).Fits .pointer :=
    .param param offset (by omega) hoffset
  refine ⟨join [' '] (ReturnValue.pointer (.param param offset)).printed, ?_,
    exists_returnValue? hfits⟩
  simp [ReturnValue.printed, join]

/-- The bytes of a string follow their number on the same line. -/
theorem accepted_string : Accepted .cstring "S %llu ".toList := by
  have htext : ∀ args text, Prints "S %llu ".toList args text → ∃ n < 2 ^ 64, args = [n] ∧
      text = 'S' :: ' ' :: (decimal n ++ [' ']) := by
    intro args text hprints
    simp (disch := decide) only [String.reduceToList, prints_char_iff, prints_decimal_iff,
      prints_nil_iff] at hprints
    obtain ⟨_, rfl, _, rfl, n, _, _, hn, rfl, rfl, _, rfl, rfl, rfl⟩ := hprints
    exact ⟨n, hn, rfl, rfl⟩
  have hsome : Prints "S %llu ".toList [0] ('S' :: ' ' :: (decimal 0 ++ [' '])) :=
    .char 'S' (by decide) (.char ' ' (by decide) (.decimal 0 (by decide)
      (.char ' ' (by decide) .done)))
  refine ⟨⟨_, .dumped [] (by decide) hsome⟩, ?_⟩
  intro line hprinted
  cases hprinted with
  | ended hprints =>
      obtain ⟨n, _, _, hline⟩ := htext _ _ hprints
      rw [← List.cons_append, ← List.cons_append] at hline
      cases (List.append_inj' hline rfl).2
  | dumped content hopen hprints =>
      obtain ⟨n, hn, hlength, rfl⟩ := htext _ _ hprints
      obtain rfl := List.singleton_inj.1 hlength
      simpa [ReturnValue.printed, join] using exists_returnValue? (.string content hn)

end Accepted

section Forms

/-- The form in what stands behind the mark of a report, if it is that of a result. -/
def form? (back : String) : Option (List Char) :=
  (dropFront? returnMark back.toList).map (·.takeWhile (· ≠ '"'))

theorem returnForms_source (hvalid : sig.validate = .ok ()) :
    returnForms (source sig guardBytes).toList =
      (reports (sourceLines sig guardBytes)).filterMap form? := by
  have hplain := plain_sourceLines hvalid guardBytes
  rw [returnForms, source_eq, pieces_unlines hplain, List.flatMap_append, reports]
  have hlast : [[]].flatMap (fun line =>
      (found (dropFront? (mark ++ returnMark)) line).map (·.takeWhile (· ≠ '"'))) = [] := rfl
  rw [hlast, List.append_nil]
  generalize sourceLines sig guardBytes = lines at hplain
  induction lines with
  | nil => rfl
  | cons line lines ih =>
      have hrest := ih fun other hother => hplain other (List.mem_cons_of_mem line hother)
      rw [List.map_cons, List.flatMap_cons, hrest, found_text (hplain line List.mem_cons_self)]
      cases line with
      | code text => rfl
      | report front back =>
          have hreport : (Line.report front back).report? = some back := rfl
          have hform : form? back =
              (dropFront? returnMark back.toList).map (·.takeWhile (· ≠ '"')) := rfl
          rw [hreport, List.filterMap_cons_some hreport, List.filterMap_cons, hform]
          cases hdrop : dropFront? returnMark back.toList <;> simp [hdrop]

theorem form?_ofList (cs : List Char) :
    form? (String.ofList cs) = (dropFront? returnMark cs).map (·.takeWhile (· ≠ '"')) := by
  have htext : (String.ofList cs).toList = cs := String.toList_ofList
  rw [form?, htext]

theorem form?_ofList_append (cs : List Char) (rest : String) : form? (String.ofList cs ++ rest) =
    (dropFront? returnMark (cs ++ rest.toList)).map (·.takeWhile (· ≠ '"')) := by
  have htext : (String.ofList cs ++ rest).toList = cs ++ rest.toList := by
    rw [String.toList_append, String.toList_ofList]
  rw [form?, htext]

theorem returnForms_eq (hvalid : sig.validate = .ok ()) :
    returnForms (source sig guardBytes).toList = (reports (callLines sig)).filterMap form? := by
  have hbadInput : form? "BADINPUT\\n\");" = none := (form?_ofList _).trans rfl
  have hend : form? "END\\n\");" = none := (form?_ofList _).trans rfl
  have hmemory : (reports ((numbered sig).flatMap memoryReport)).filterMap form? = [] := by
    rw [List.filterMap_eq_nil_iff]
    intro back hback
    obtain ⟨i, _, rfl⟩ := mem_reports_memory.1 hback
    obtain ⟨rest, hrest⟩ := exists_memoryBack i
    rw [form?, hrest]
    rfl
  rw [returnForms_source hvalid, reports_sourceLines]
  simp only [List.filterMap_cons, List.filterMap_append, hmemory, hbadInput, hend,
    List.filterMap_nil, List.append_nil]

theorem form?_of_mem_rangeLines {entry : Nat × Param} {back : String}
    (hback : back ∈ reports (rangeLines entry)) : form? back = some "P %d %llu\\n".toList := by
  obtain ⟨i, p⟩ := entry
  simp only [rangeLines] at hback
  split at hback
  · obtain rfl := List.mem_singleton.1 hback
    simp only [String.append_assoc]
    exact form?_ofList_append _ _
  · cases hback

/-- Every report of a result has a form that is accepted for its type. -/
theorem exists_accepted {back : String} (hback : back ∈ reports (callLines sig)) :
    ∃ form, form? back = some form ∧ Accepted sig.ret form := by
  cases hret : sig.ret with
  | void =>
      simp only [callLines, hret] at hback
      obtain rfl := List.mem_singleton.1 hback
      exact ⟨_, form?_ofList _, accepted_void⟩
  | scalar ty =>
      cases ty with
      | int width signed =>
          simp only [callLines, hret] at hback
          obtain rfl := List.mem_singleton.1 hback
          simp only [String.append_assoc]
          exact ⟨_, form?_ofList_append _ _, accepted_scalar (.int width signed)⟩
      | f32 =>
          simp only [callLines, hret] at hback
          obtain rfl := List.mem_singleton.1 hback
          exact ⟨_, form?_ofList _, accepted_scalar .f32⟩
      | f64 =>
          simp only [callLines, hret] at hback
          obtain rfl := List.mem_singleton.1 hback
          exact ⟨_, form?_ofList _, accepted_scalar .f64⟩
  | pointer =>
      simp only [callLines, hret, reports_append, List.mem_append] at hback
      rcases hback with (hback | hback) | hback
      · obtain rfl := List.mem_singleton.1 hback
        exact ⟨_, form?_ofList _, accepted_null⟩
      · obtain ⟨line, hline, hback⟩ := List.mem_filterMap.1 hback
        obtain ⟨entry, _, hline⟩ := List.mem_flatMap.1 hline
        have hreport := List.mem_filterMap.2 ⟨line, hline, hback⟩
        exact ⟨_, form?_of_mem_rangeLines hreport, accepted_param⟩
      · obtain rfl := List.mem_singleton.1 hback
        exact ⟨_, form?_ofList _, accepted_foreign⟩
  | cstring =>
      simp only [callLines, hret] at hback
      have hback : back ∈ ["RET S NULL\\n\");", "RET S %llu \", (unsigned long long)n);"] := hback
      simp only [List.mem_cons, List.not_mem_nil, or_false] at hback
      rcases hback with rfl | rfl
      · exact ⟨_, form?_ofList _, accepted_noString⟩
      · exact ⟨_, form?_ofList _, accepted_string⟩

theorem exists_mem_reports (sig : Signature) : ∃ back, back ∈ reports (callLines sig) := by
  unfold callLines
  split <;> exact ⟨_, List.mem_cons_self⟩

/-- Every form of a result in the text is accepted, and there is one. -/
theorem accepted_of_mem_returnForms (hvalid : sig.validate = .ok ()) :
    returnForms (source sig guardBytes).toList ≠ [] ∧
      ∀ form ∈ returnForms (source sig guardBytes).toList, Accepted sig.ret form := by
  rw [returnForms_eq hvalid]
  constructor
  · obtain ⟨back, hback⟩ := exists_mem_reports sig
    obtain ⟨form, hform, _⟩ := exists_accepted hback
    exact List.ne_nil_of_mem (List.mem_filterMap.2 ⟨back, hback, hform⟩)
  · intro form hmem
    obtain ⟨back, hback, hform⟩ := List.mem_filterMap.1 hmem
    obtain ⟨other, hother, haccepted⟩ := exists_accepted hback
    rwa [Option.some.inj (hform.symm.trans hother)]

end Forms

section Tests

def nullLine : Line := .report "        printf(\"\\n" "RET P NULL\\n\");"

def foreignLine : Line := .report "        printf(\"\\n" "RET P FOREIGN\\n\");"

theorem reports_headLines : reports (headLines sig guardBytes) = ["BADINPUT\\n\");"] := by
  simp only [headLines, preludeLines, reports_append, reports_code]
  rfl

/-- Between the reports of no object and of a foreign one stand the tests of the parameters that
are pointers, in order, each with its report. -/
theorem between_null_foreign (hvalid : sig.validate = .ok ()) (hret : sig.ret = .pointer) :
    between nullLine.text.toList foreignLine.text.toList
        (pieces '\n' (source sig guardBytes).toList) =
      ((numbered sig).flatMap rangeLines ++ [Line.code "    \x7d else \x7b"]).map
        fun line => line.text.toList := by
  have hplain := plain_sourceLines hvalid guardBytes
  have hlines : sourceLines sig guardBytes =
      (headLines sig guardBytes ++ [Line.code "int main(void)", .code "\x7b"] ++
        ((numbered sig).flatMap readLines).map Line.code ++ [Line.code "    fflush(stdout);"] ++
          [.code ("    void *r = " ++ callExpr sig ++ ";"), .code "    if (r == NULL) \x7b"]) ++
        nullLine :: (((numbered sig).flatMap rangeLines ++ [.code "    \x7d else \x7b"]) ++
          foreignLine :: (.code "    \x7d" :: ((numbered sig).flatMap memoryReport ++
            [.report "    printf(\"" "END\\n\");", .code "    fflush(stdout);",
              .code "    return 0;", .code "\x7d"]))) := by
    simp only [sourceLines, callLines, hret, nullLine, foreignLine, List.append_assoc,
      List.cons_append, List.nil_append]
  have hnull : nullLine ∈ sourceLines sig guardBytes := by
    rw [hlines]
    exact List.mem_append_right _ List.mem_cons_self
  have hforeign : foreignLine ∈ sourceLines sig guardBytes := by
    rw [hlines]
    exact List.mem_append_right _ (List.mem_cons_of_mem _
      (List.mem_append_right _ List.mem_cons_self))
  refine between_source hvalid hlines ?_ ?_
  · intro line hline htext
    have hmem : line ∈ sourceLines sig guardBytes := by
      rw [hlines]
      exact List.mem_append_left _ hline
    have hreport := report?_eq_of_text_eq (hplain line hmem) (hplain _ hnull) htext
    have hback := List.mem_filterMap.2 ⟨line, hline, hreport⟩
    change _ ∈ reports _ at hback
    simp only [reports_append, reports_headLines, reports_code] at hback
    change _ ∈ ["BADINPUT\\n\");"] at hback
    exact absurd hback (by decide)
  · intro line hline htext
    have hmem : line ∈ sourceLines sig guardBytes := by
      rw [hlines]
      exact List.mem_append_right _ (List.mem_cons_of_mem _ (List.mem_append_left _ hline))
    have hreport := report?_eq_of_text_eq (hplain line hmem) (hplain _ hforeign) htext
    rcases List.mem_append.1 hline with hline | hline
    · obtain ⟨entry, _, hline⟩ := List.mem_flatMap.1 hline
      have hform := form?_of_mem_rangeLines (List.mem_filterMap.2 ⟨line, hline, hreport⟩)
      have hother : form? "RET P FOREIGN\\n\");" = some "P FOREIGN\\n".toList := form?_ofList _
      exact absurd (Option.some.inj (hform.symm.trans hother)) (by decide)
    · obtain rfl := List.mem_singleton.1 hline
      cases hreport

end Tests

end Counterpart.Driver
