/-
Reading a report undoes printing it.  A line of the report is read as its fields, other
lines change nothing, and so the lines of an output leave the report they were printed
for.
-/
import Counterpart.Proofs.Exchange.ReportFits

namespace Counterpart

open Text

namespace DriverReport

theorem mem_lineOf {fields : List (List Char)} (hfields : ∀ field ∈ fields, IsField field)
    {c : Char} (hc : c ∈ lineOf fields) :
    (0 < c.toNat ∧ c.toNat < 0x80) ∧ c ≠ '\n' ∧ c ≠ '\r' := by
  have hmark : IsAscii mark ∧ '\n' ∉ mark ∧ '\r' ∉ mark := by decide
  rcases List.mem_append.1 hc with hfront | hback
  · refine ⟨hmark.1 c hfront, ?_, ?_⟩
    · rintro rfl
      exact hmark.2.1 hfront
    · rintro rfl
      exact hmark.2.2 hfront
  · rcases mem_join hback with rfl | ⟨field, hfield, hmem⟩
    · decide
    · obtain ⟨hblank, hascii⟩ := hfields field hfield c hmem
      refine ⟨hascii, ?_, ?_⟩
      · rintro rfl
        cases hblank
      · rintro rfl
        cases hblank

theorem exists_dropReturns (line : List Char) : ∃ back, line = dropReturns line ++ back := by
  refine ⟨(line.reverse.takeWhile (· == '\r')).reverse, ?_⟩
  rw [dropReturns, ← List.reverse_append, List.takeWhile_append_dropWhile,
    List.reverse_reverse]

theorem dropReturns_of_notMem {line : List Char} (hline : '\r' ∉ line) :
    dropReturns line = line := by
  have hkeep : line.reverse.dropWhile (· == '\r') = line.reverse := by
    cases hreverse : line.reverse with
    | nil => rfl
    | cons c cs =>
        have hc : c ∈ line := List.mem_reverse.1 (by simp [hreverse])
        have hne : c ≠ '\r' := fun heq => hline (heq ▸ hc)
        simp [hne]
  rw [dropReturns, hkeep, List.reverse_reverse]

/-- A line that does not belong to the report changes nothing, whatever its bytes. -/
theorem withLine_noise (sig : Signature) (report : DriverReport) {line : Bytes}
    (hnoise : IsNoise line) : withLine sig report (lossy line) = .ok report := by
  have hmark : IsAscii mark := by decide
  simp only [withLine]
  cases hfront : dropFront? mark (dropReturns (lossy line)) with
  | none => rfl
  | some rest =>
      obtain ⟨back, hback⟩ := exists_dropReturns (lossy line)
      rw [dropFront?_eq_some hfront, List.append_assoc] at hback
      exact absurd (utf8_prefix_of_lossy hmark hback) hnoise.2

/-- A line of the report is read as its fields, but for empty ones. -/
theorem withLine_lineOf (sig : Signature) (report : DriverReport) {fields : List (List Char)}
    (hfields : ∀ field ∈ fields, IsField field) :
    withLine sig report (lineOf fields) =
      withFields sig (lineOf fields) report (fields.filter (· ≠ [])) := by
  have hreturns : dropReturns (lineOf fields) = lineOf fields :=
    dropReturns_of_notMem fun hc => (mem_lineOf hfields hc).2.2 rfl
  have hwords := words_join fun field hfield => (hfields field hfield).isWord
  simp only [withLine, hreturns]
  rw [lineOf, dropFront?_append]
  exact congrArg (withFields sig (mark ++ join [' '] fields) report) hwords

theorem pieces_lossy {line : Bytes} (hline : 0x0A ∉ line) (rest : Bytes) :
    pieces '\n' (lossy (line ++ 0x0A :: rest)) = lossy line :: pieces '\n' (lossy rest) := by
  have hnewline : '\n' ∉ lossy line := by
    intro hmem
    exact hline (mem_of_mem_lossy (by decide) (by decide) hmem)
  rw [lossy_append (by decide)]
  exact pieces_append hnewline (lossy rest)

theorem lossy_newline (rest : Bytes) : lossy (0x0A :: rest) = '\n' :: lossy rest := by
  have hall := lossy_append (b := 0x0A) (by decide) [] rest
  simpa using hall

theorem pieces_lossy_lineOf {fields : List (List Char)}
    (hfields : ∀ field ∈ fields, IsField field) (rest : Bytes) :
    pieces '\n' (lossy (utf8 (lineOf fields) ++ 0x0A :: rest)) =
      lineOf fields :: pieces '\n' (lossy rest) := by
  have hascii : IsAscii (lineOf fields) := by
    intro c hc
    exact (mem_lineOf hfields hc).1
  have hnewline : '\n' ∉ lineOf fields := by
    intro hc
    exact (mem_lineOf hfields hc).2.1 rfl
  rw [lossy_utf8_append hascii, lossy_newline]
  exact pieces_append hnewline (lossy rest)

/-- The lines of an output leave what the lines of the report alone would leave. -/
theorem withLines_printed (sig : Signature) {lines : List (List (List Char))} {stdout : Bytes}
    (hprinted : Printed lines stdout)
    (hlines : ∀ fields ∈ lines, ∀ field ∈ fields, IsField field) (report : DriverReport) :
    withLines sig report (pieces '\n' (lossy stdout)) =
      withLines sig report (lines.map lineOf) := by
  induction hprinted generalizing report with
  | done =>
      rw [lossy_nil]
      rfl
  | noise line hnoise _ ih =>
      rw [pieces_lossy hnoise.1, withLines, withLine_noise sig report hnoise]
      exact ih hlines report
  | line fields _ ih =>
      have hfields := hlines fields List.mem_cons_self
      have hrest := ih fun fields hfields => hlines fields (List.mem_cons_of_mem _ hfields)
      rw [pieces_lossy_lineOf hfields, List.map_cons, withLines, withLines]
      cases withLine sig report (lineOf fields) with
      | error e => rfl
      | ok next => exact hrest next

theorem withLines_append (sig : Signature) (report : DriverReport)
    (front back : List (List Char)) :
    withLines sig report (front ++ back) =
      (withLines sig report front).bind fun next => withLines sig next back := by
  induction front generalizing report with
  | nil => rfl
  | cons line front ih =>
      simp only [List.cons_append, withLines]
      cases withLine sig report line with
      | error e => rfl
      | ok next => exact ih next

theorem sizedBytes?_hexBytes {content : Bytes} (hlength : content.length < 2 ^ 64) :
    sizedBytes? (decimal content.length) (some (hexBytes content)) = some content := by
  simp [sizedBytes?, nat64?_decimal hlength, hexPairs?_hexBytes]

theorem hexBytes_cons_ne_nil (b : UInt8) (rest : Bytes) : hexBytes (b :: rest) ≠ [] := by
  simp [hexBytes_cons, hexByte_eq]

/-- A result is read back from its fields. -/
theorem returnValue?_printed {ty : ReturnType} {value : ReturnValue} (hfits : value.Fits ty) :
    returnValue? ty (value.printed.filter (· ≠ [])) = some value := by
  cases hfits with
  | void => rfl
  | scalar v hbits =>
      have hform : (if v.ty.isInteger then ['I'] else ['F']) ≠ [] := by
        split <;> simp
      have hdigits := natBelow?_hexadecimal v.bits.isLt
      simp [ReturnValue.printed, hform, hexadecimal_ne_nil, returnValue?, hdigits,
        ScalarValue.ofBits_of_lt hbits]
  | null => rfl
  | param param offset hparam hoffset =>
      simp [ReturnValue.printed, decimal_ne_nil, returnValue?, nat64?_decimal hparam,
        nat64?_decimal hoffset]
  | foreign => rfl
  | noString => rfl
  | string content hlength =>
      -- The empty field of a string without bytes is no word, and the length stands alone.
      cases content with
      | nil => rfl
      | cons b rest =>
          have hsized := sizedBytes?_hexBytes hlength
          rw [List.length_cons] at hsized
          simp [ReturnValue.printed, decimal_ne_nil, hexBytes_cons_ne_nil, returnValue?, hsized]

theorem withFields_return (sig : Signature) (line : List Char) (report : DriverReport)
    (fields : List (List Char)) :
    withFields sig line report ("RET".toList :: fields) = withReturn sig line fields report :=
  rfl

theorem withLine_return (sig : Signature) (report : DriverReport) (hnone : report.ret = none)
    {value : ReturnValue} (hfits : value.Fits sig.ret) :
    withLine sig report (lineOf ("RET".toList :: value.printed)) =
      .ok { report with ret := some value } := by
  have hkeyword : IsField "RET".toList := by decide
  have hfields : ∀ field ∈ "RET".toList :: value.printed, IsField field := by
    simp only [List.forall_mem_cons]
    exact ⟨hkeyword, isField_printed value⟩
  rw [withLine_lineOf sig report hfields, List.filter_cons_of_pos (by decide),
    withFields_return, withReturn, returnValue?_printed hfits]
  simp [hnone]

theorem withLine_memory (sig : Signature) (report : DriverReport) {index : Nat}
    {content : Bytes}
    (hmutable : ∃ p, sig.params[index]? = some p ∧ p.ty.isMutablePointer = true)
    (hindex : index < 2 ^ 64) (hlength : content.length < 2 ^ 64) :
    withLine sig report (lineOf (memoryFields (index, content))) =
      .ok { report with memory := report.memory ++ [(index, content)] } := by
  have hfields := isField_memoryFields (index, content)
  have hat : isMutableAt sig index = true := by
    obtain ⟨p, hp, hpointer⟩ := hmutable
    simp [isMutableAt, hp, hpointer]
  rw [withLine_lineOf sig report hfields]
  cases content with
  | nil =>
      have hempty : hexBytes [] = [] := rfl
      have hsized : sizedBytes? (decimal 0) none = some [] := rfl
      simp [memoryFields, decimal_ne_nil, hempty, withFields, withMemory,
        nat64?_decimal hindex, hat, hsized]
  | cons b rest =>
      have hsized := sizedBytes?_hexBytes hlength
      rw [List.length_cons] at hsized
      simp [memoryFields, decimal_ne_nil, hexBytes_cons_ne_nil, withFields, withMemory,
        nat64?_decimal hindex, hat, hsized]

theorem withLine_end (sig : Signature) (report : DriverReport) :
    withLine sig report (lineOf ["END".toList]) = .ok { report with completed := true } := by
  have hfields : ∀ field ∈ ["END".toList], IsField field := by decide
  rw [withLine_lineOf sig report hfields]
  rfl

theorem withLines_memory (sig : Signature) (report : DriverReport)
    {entries : List (Nat × Bytes)}
    (hfits : ∀ index content, (index, content) ∈ entries →
      (∃ p, sig.params[index]? = some p ∧ p.ty.isMutablePointer = true) ∧
        index < 2 ^ 64 ∧ content.length < 2 ^ 64) :
    withLines sig report (entries.map fun entry => lineOf (memoryFields entry)) =
      .ok { report with memory := report.memory ++ entries } := by
  induction entries generalizing report with
  | nil => simp [withLines]
  | cons entry entries ih =>
      obtain ⟨index, content⟩ := entry
      obtain ⟨hmutable, hindex, hlength⟩ := hfits index content List.mem_cons_self
      have hrest : ∀ index content, (index, content) ∈ entries → _ :=
        fun index content hmem => hfits index content (List.mem_cons_of_mem _ hmem)
      rw [List.map_cons, withLines, withLine_memory sig report hmutable hindex hlength]
      simp only [Except.bind]
      rw [ih _ hrest]
      simp

/-- Reading the lines of a report, and nothing else, gives the report. -/
theorem withLines_report {sig : Signature} {report : DriverReport} (hfits : report.Fits sig) :
    withLines sig empty (report.printed.map lineOf) = .ok report := by
  obtain ⟨ret, memory, completed⟩ := report
  have hret : withLines sig empty
      ((ret.toList.map fun value => "RET".toList :: value.printed).map lineOf) =
        .ok ⟨ret, [], false⟩ := by
    cases ret with
    | none => rfl
    | some value =>
        have hline := withLine_return sig empty rfl (hfits.ret value rfl)
        simp only [Option.toList, List.map_cons, List.map_nil, withLines]
        rw [hline]
        rfl
  have hmemory : withLines sig ⟨ret, [], false⟩ ((memory.map memoryFields).map lineOf) =
      .ok ⟨ret, memory, false⟩ := by
    rw [List.map_map]
    exact withLines_memory sig ⟨ret, [], false⟩ hfits.memory
  have hlast : withLines sig ⟨ret, memory, false⟩
      ((if completed then [["END".toList]] else []).map lineOf) =
        .ok ⟨ret, memory, completed⟩ := by
    cases completed with
    | false => rfl
    | true =>
        simp only [if_true, List.map_cons, List.map_nil, withLines]
        rw [withLine_end]
        rfl
  rw [printed, List.map_append, List.map_append, withLines_append, withLines_append, hret]
  simp only [Except.bind]
  rw [hmemory]
  exact hlast

/-- Every output in which a report is printed is read as the report. -/
theorem read_of_printed {sig : Signature} {report : DriverReport} (hfits : report.Fits sig)
    {stdout : Bytes} (hprinted : Printed report.printed stdout) :
    read sig stdout = .ok report := by
  have hlines := withLines_printed sig hprinted (fun _ => isField_of_mem_report) empty
  rw [read, hlines]
  exact withLines_report hfits

/-- Reading undoes printing in any surrounding output: for every report that fits the
signature, every output in which its lines stand in order among complete lines of arbitrary
other bytes is read as the report.  Nothing else is ever read: for every output whatsoever
the report that was read fits the signature. -/
theorem read_undoes_printing (sig : Signature) :
    (∀ report : DriverReport, report.Fits sig → ∀ stdout, Printed report.printed stdout →
      read sig stdout = .ok report) ∧
    ∀ stdout report, read sig stdout = .ok report → report.Fits sig := by
  constructor
  · intro report hfits stdout hprinted
    exact read_of_printed hfits hprinted
  · intro stdout report hread
    exact fits_of_read hread

namespace Noisy

def sig : Signature :=
  ⟨"f",
    [⟨"n", .scalar (.int .w4 false), none, false, []⟩,
      ⟨"out", .bytes 2 true, none, false, []⟩],
    .cstring⟩

/-- An empty string was returned and two bytes were written. -/
def report : DriverReport :=
  ⟨some (.str (some [])), [(1, [0x0a, 0xbc])], true⟩

/-- The output opens with an ill-formed byte and a line feed. -/
def stdout : Bytes :=
  [0x6f, 0xff, 0x0a] ++ utf8 "@@EQ RET S 0 \n".toList ++ utf8 "@@EQ MEM 1 2 0abc\n".toList ++
    [0x40, 0x40, 0x45, 0x51, 0xc2, 0x0a] ++ utf8 "@@EQ END\n".toList

end Noisy

open Noisy in
theorem read_undoes_printing_noisy :
    Printed report.printed stdout ∧ read sig stdout = .ok report ∧ report.Fits sig := by
  have hfits : report.Fits sig := by
    refine ⟨?_, ?_⟩
    · intro value hvalue
      cases hvalue
      exact .string [] (by decide)
    · intro index content hmem
      cases List.mem_singleton.1 hmem
      exact ⟨⟨_, rfl, rfl⟩, by decide, by decide⟩
  have hprinted : Printed report.printed stdout :=
    .noise [0x6f, 0xff] (by decide)
      (.line _ (.line _ (.noise [0x40, 0x40, 0x45, 0x51, 0xc2] (by decide) (.line _ .done))))
  have hread := (read_undoes_printing sig).1 report hfits stdout hprinted
  exact ⟨hprinted, hread, (read_undoes_printing sig).2 stdout report hread⟩

end DriverReport

end Counterpart
