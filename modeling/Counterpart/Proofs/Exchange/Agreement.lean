/-
The four parties of an exchange agree.  Which memory is reported, which results are printed and
what is read are told here from the text of the driver alone, and they are what the reader of
reports accepts, what a complete execution requires and what the arguments are written as.
-/
import Counterpart.Proofs.Exchange.DriverReads
import Counterpart.Proofs.Exchange.ReturnForms
import Counterpart.Proofs.Trial.Snapshots

namespace Counterpart

namespace Driver

open Text DriverReport

section Agreement

variable {sig : Signature} {guardBytes : Nat}

/-- What the report of a parameter begins with. -/
def memoryMark (i : Nat) : List Char :=
  mark ++ "MEM ".toList ++ decimal i ++ [' ']

/-- The report of a parameter stands in the text if and only if the parameter is a mutable
pointer. -/
theorem memoryMark_infix_iff (hvalid : sig.validate = .ok ()) (i : Nat) :
    memoryMark i <:+: (source sig guardBytes).toList ↔ isMutableAt sig i = true := by
  have hmark : memoryMark i = mark ++ ("MEM ".toList ++ (decimal i ++ [' '])) := by
    simp only [memoryMark, List.append_assoc]
  have hbreak : '\n' ∉ "MEM ".toList ++ (decimal i ++ [' ']) := by
    have hdigits := notMem_decimal (show isDecimal '\n' = false by decide) i
    simp [hdigits]
  have hspace (n : Nat) : ' ' ∉ decimal n := notMem_decimal (by decide) n
  rw [hmark, infix_source_iff hvalid hbreak, reports_sourceLines]
  constructor
  · rintro ⟨back, hback, hbegins⟩
    have hhead : ['M'] <+: back.toList := (List.prefix_append ['M'] _).trans hbegins
    rcases List.mem_cons.1 hback with rfl | hback
    · exact absurd hhead (by decide)
    rcases List.mem_append.1 hback with hback | hback
    · rcases List.mem_append.1 hback with hback | hback
      · obtain ⟨form, hform, _⟩ := exists_accepted hback
        obtain ⟨rest, hrest, _⟩ := Option.map_eq_some_iff.1 hform
        rw [dropFront?_eq_some hrest] at hhead
        exact absurd (List.cons_prefix_cons.1 hhead).1 (by decide)
      · obtain ⟨j, hat, rfl⟩ := mem_reports_memory.1 hback
        obtain ⟨rest, hrest⟩ := exists_memoryBack j
        rw [hrest, List.prefix_append_right_inj] at hbegins
        have hdigits := eq_of_append_cons_prefix (hspace i) (hspace j) hbegins
        rwa [decimal_inj hdigits]
    · obtain rfl := List.mem_singleton.1 hback
      exact absurd hhead (by decide)
  · intro hat
    refine ⟨memoryBack i, ?_, ?_⟩
    · refine List.mem_cons_of_mem _ (List.mem_append_left _ (List.mem_append_right _ ?_))
      exact mem_reports_memory.2 ⟨i, hat, rfl⟩
    · obtain ⟨rest, hrest⟩ := exists_memoryBack i
      rw [hrest, List.prefix_append_right_inj, List.prefix_append_right_inj]
      exact List.prefix_append [' '] rest

/-- The reader refuses memory of any other parameter, whatever is reported for it. -/
theorem withLine_unexpectedMemory {i : Nat} (hi : i < 2 ^ 64) (hat : isMutableAt sig i = false)
    (content : Bytes) (report : DriverReport) :
    withLine sig report (lineOf (memoryFields (i, content))) = .error (.unexpectedMemory i) := by
  rw [withLine_lineOf sig report (isField_memoryFields (i, content))]
  cases content with
  | nil =>
      have hempty : hexBytes [] = [] := rfl
      simp [memoryFields, decimal_ne_nil, hempty, withFields, withMemory, nat64?_decimal hi, hat]
  | cons b rest =>
      simp [memoryFields, decimal_ne_nil, hexBytes_cons_ne_nil, withFields, withMemory,
        nat64?_decimal hi, hat]

/-- The snapshots can be taken if there is memory for every mutable pointer that is not null. -/
theorem exists_collect_of_encode_iff {values : List ArgValue} {input : List Char}
    (hinput : Exchange.encode sig values = .ok input) (memory : List (Nat × Bytes)) :
    (∃ snapshots, Snapshot.collect guardBytes values memory 0 sig.params = .ok snapshots) ↔
      ∀ i v, isMutableAt sig i = true → values[i]? = some v → v ≠ .null →
        ∃ content, (i, content) ∈ memory := by
  simp only [Snapshot.exists_collect_iff, Prod.forall, List.mem_zipIdx_iff_getElem?,
    Snapshot.isSome_reported?_iff]
  simp only [Option.isSome_iff_exists, Snapshot.object?_eq_some_iff]
  constructor
  · intro hall i v hat hv hnull
    obtain ⟨p, hp, hmutable⟩ := exists_param_of_isMutableAt hat
    obtain ⟨passed, hbehind⟩ := (Snapshot.notNull_iff_of_encode hinput hp hmutable hv).1 hnull
    exact hall p i hp ⟨_, hmutable, v, passed, hv, hbehind, rfl⟩
  · rintro hall p i hp ⟨s, hmutable, v, passed, hv, hbehind, _⟩
    have hat : isMutableAt sig i = true := by simp [isMutableAt, hp, hmutable]
    exact hall i v hat hv
      ((Snapshot.notNull_iff_of_encode hinput hp hmutable hv).2 ⟨passed, hbehind⟩)

/-- A process that ended by itself has shown a complete execution if the reader found a result, the
last line, and memory for every mutable pointer that is not null. -/
theorem exists_completed_iff {values : List ArgValue} {input : List Char}
    (hinput : Exchange.encode sig values = .ok input) {stdout : Bytes} {report : DriverReport}
    (hread : read sig stdout = .ok report) (code : Int) :
    (∃ ret snapshots, Execution.ofOutcome sig guardBytes values ⟨.exited code, stdout⟩ =
        .ok (.completed ret snapshots)) ↔
      report.ret.isSome = true ∧ report.completed = true ∧
        ∀ i v, isMutableAt sig i = true → values[i]? = some v → v ≠ .null →
          ∃ content, (i, content) ∈ report.memory := by
  rw [← exists_collect_of_encode_iff hinput]
  simp only [Execution.ofOutcome, hread, Execution.ofReport]
  rcases report with ⟨_ | ret, memory, _ | _⟩
  · simp
  · simp
  · simp
  · rcases Snapshot.collect guardBytes values memory 0 sig.params with fault | snapshots
    · simp
    · simp

/-- What the text of a driver says is what the other parties of the exchange go by. -/
structure Agreement (sig : Signature) (guardBytes : Nat) (text : List Char) : Prop where
  /-- The reader takes the memory whose report stands in the text. -/
  memory_accepted : ∀ i content (report : DriverReport), i < 2 ^ 64 → content.length < 2 ^ 64 →
    memoryMark i <:+: text →
      withLine sig report (lineOf (memoryFields (i, content))) =
        .ok { report with memory := report.memory ++ [(i, content)] }
  /-- The reader takes no other memory. -/
  memory_refused : ∀ i content (report : DriverReport), i < 2 ^ 64 → ¬ memoryMark i <:+: text →
    withLine sig report (lineOf (memoryFields (i, content))) = .error (.unexpectedMemory i)
  /-- An execution is complete only with the memory whose report stands in the text, unless the
  argument is null, and without any other. -/
  memory_required : ∀ values input stdout (report : DriverReport) code,
    Exchange.encode sig values = .ok input → read sig stdout = .ok report →
      ((∃ ret snapshots, Execution.ofOutcome sig guardBytes values ⟨.exited code, stdout⟩ =
          .ok (.completed ret snapshots)) ↔
        report.ret.isSome = true ∧ report.completed = true ∧
          ∀ i v, memoryMark i <:+: text → values[i]? = some v → v ≠ .null →
            ∃ content, (i, content) ∈ report.memory)
  /-- Some form of a result is printed. -/
  forms_ne_nil : returnForms text ≠ []
  /-- Lines are printed by every such form, and each is a result of the declared type. -/
  forms_accepted : ∀ form ∈ returnForms text, Accepted sig.ret form
  /-- A pointer is looked for behind the pointers that are passed, in order, and nowhere else. -/
  range_tests : sig.ret = .pointer →
    between nullLine.text.toList foreignLine.text.toList (pieces '\n' text) =
      ((numbered sig).flatMap rangeLines ++ [Line.code "    \x7d else \x7b"]).map
        fun line => line.text.toList
  /-- In front of the call the parameters are read in order. -/
  reads : readEvents text = sig.params.flatMap paramEvents
  /-- Every operation of a parameter takes the group that is written for it. -/
  takes : ∀ values input, Exchange.encode sig values = .ok input →
    input = (values.flatMap Exchange.groups).flatten ++ ['\n'] ∧
      List.Forall₂ (fun p v => List.Forall₂ Exchange.Operation.Takes (Exchange.operations p.ty)
        (Exchange.groups v)) sig.params values

/-- For a signature that can be run, the text of the driver, the text of the arguments, the reader
of reports and the execution agree on what is exchanged. -/
theorem source_agrees (hvalid : sig.validate = .ok ()) (guardBytes : Nat) :
    Agreement sig guardBytes (source sig guardBytes).toList where
  memory_accepted := by
    intro i content report hi hcontent hmark
    have hat := (memoryMark_infix_iff hvalid i).1 hmark
    exact withLine_memory sig report (exists_param_of_isMutableAt hat) hi hcontent
  memory_refused := by
    intro i content report hi hmark
    rw [memoryMark_infix_iff hvalid, Bool.not_eq_true] at hmark
    exact withLine_unexpectedMemory hi hmark content report
  memory_required := by
    intro values input stdout report code hinput hread
    simp only [memoryMark_infix_iff hvalid]
    exact exists_completed_iff hinput hread code
  forms_ne_nil := (accepted_of_mem_returnForms hvalid).1
  forms_accepted := (accepted_of_mem_returnForms hvalid).2
  range_tests := between_null_foreign hvalid
  reads := readEvents_source hvalid
  takes := fun _ _ => Exchange.encode_groups

end Agreement

namespace Search

/-- A pointer is given back to a function with parameters of every shape. -/
def sig : Signature := { Exchange.Mixed.sig with ret := .pointer }

end Search

open Search in
theorem source_agrees_search :
    sig.validate = .ok () ∧ Agreement sig 16 (source sig 16).toList ∧
      readEvents (source sig 16).toList =
        [.parameter ['n'], .operation .word,
          .parameter ['p', 'a', 'i', 'r'], .operation .word, .operation .word,
          .parameter ['o', 'u', 't'], .operation .block,
          .parameter ['n', 'a', 'm', 'e'], .operation .block,
          .parameter ['r', 'a', 'w'], .operation .block,
          .parameter ['n', 'o', 'n', 'e'], .operation .block] := by
  have hvalid : sig.validate = .ok () := rfl
  have hagrees := source_agrees hvalid 16
  exact ⟨hvalid, hagrees, hagrees.reads⟩

end Driver

end Counterpart
