/-
What the outcome of a program is taken for.  A refused input is the harness's own failure; apart
from that, how the process ended counts before what it printed, and what it printed counts only
as far as it is a complete report.
-/
import Counterpart.Proofs.Trial.Snapshots

namespace Counterpart

namespace Execution

open DriverReport (read)

/-- A parameter that is a mutable pointer and is passed an object. -/
structure Object (sig : Signature) (values : List ArgValue) (index : Nat) (p : Param) : Prop where
  param : sig.params[index]? = some p
  isMutable : p.ty.isMutablePointer = true
  passed : ∃ v content, values[index]? = some v ∧ v.Behind content

/-- The content is that of the first report for the parameter. -/
def FirstReport (memory : List (Nat × Bytes)) (index : Nat) (content : Bytes) : Prop :=
  ∃ front back, memory = front ++ (index, content) :: back ∧ ∀ entry ∈ front, entry.1 ≠ index

theorem firstReport_of_reported? {memory : List (Nat × Bytes)} {index : Nat} {content : Bytes}
    (hreported : Snapshot.reported? memory index = some content) :
    FirstReport memory index content := by
  obtain ⟨⟨i, bytes⟩, hfind, rfl⟩ := Option.map_eq_some_iff.1 hreported
  obtain ⟨hindex, front, back, rfl, hfront⟩ := List.find?_eq_some_iff_append.1 hfind
  obtain rfl : i = index := by simpa using hindex
  exact ⟨front, back, rfl, fun entry hentry => by simpa using hfront entry hentry⟩

/-- How an outcome is classified, given what the reader of reports makes of the output. -/
structure Diagnosis (sig : Signature) (guard : Nat) (values : List ArgValue) (outcome : Outcome)
    (result : Except TrialError Execution) : Prop where
  refused_iff : ∀ e, result = .error e ↔
    read sig outcome.stdout = .error .badInput ∧ e = .exchange .badInput
  timedOut : read sig outcome.stdout ≠ .error .badInput → outcome.ending = .timedOut →
    result = .ok (.faulted .timeout)
  signaled : read sig outcome.stdout ≠ .error .badInput →
    ∀ number, outcome.ending = .signaled number → result = .ok (.faulted (.signal number))
  garbled : ∀ code fault, outcome.ending = .exited code → read sig outcome.stdout = .error fault →
    fault ≠ .badInput → result = .ok (.faulted (.garbled fault.message))
  /-- Without a result or without the last line the report ends early. -/
  early : ∀ code report, outcome.ending = .exited code → read sig outcome.stdout = .ok report →
    (report.ret = none ∨ report.completed = false) → result = .ok (.faulted (.exit code))
  unreported : ∀ code report ret, outcome.ending = .exited code →
    read sig outcome.stdout = .ok report → report.ret = some ret → report.completed = true →
    (∃ index p, Object sig values index p ∧ ∀ content, (index, content) ∉ report.memory) →
    ∃ index p, Object sig values index p ∧ (∀ content, (index, content) ∉ report.memory) ∧
      result = .ok (.faulted (.garbled ("no memory report for '" ++ p.name ++ "'")))
  /-- A complete report counts with every exit code. -/
  completed : ∀ code report ret, outcome.ending = .exited code →
    read sig outcome.stdout = .ok report → report.ret = some ret → report.completed = true →
    (∀ index p, Object sig values index p → ∃ content, (index, content) ∈ report.memory) →
    ∃ snapshots, result = .ok (.completed ret snapshots) ∧
      Snapshot.Shown guard sig values snapshots ∧
      ∀ s ∈ snapshots, FirstReport report.memory s.param s.after
  /-- Of the arguments of a call, which are encoded, all but the null pointers are objects. -/
  notNull_iff : ∀ input, Exchange.encode sig values = .ok input → ∀ index p v,
    sig.params[index]? = some p → p.ty.isMutablePointer = true → values[index]? = some v →
      (Object sig values index p ↔ v ≠ .null)

variable {sig : Signature} {guard : Nat} {values : List ArgValue} {outcome : Outcome}

theorem ofOutcome_of_error {fault : ExchangeError} (hread : read sig outcome.stdout = .error fault)
    (hfault : fault ≠ .badInput) :
    ofOutcome sig guard values outcome =
      .ok (.faulted (garbledFault fault.message outcome.ending)) := by
  rw [ofOutcome, hread]
  cases fault with
  | badInput => exact absurd rfl hfault
  | _ => rfl

theorem ofOutcome_of_ok {report : DriverReport} (hread : read sig outcome.stdout = .ok report)
    {code : Int} (hending : outcome.ending = .exited code) :
    ofOutcome sig guard values outcome = .ok (ofReport sig guard values code report) := by
  rw [ofOutcome, hread, hending]

/-- A process that was stopped is not judged by its output, unless that is a refusal. -/
theorem ofOutcome_of_stopped {fault : Fault} (hread : read sig outcome.stdout ≠ .error .badInput)
    (hending : (outcome.ending = .timedOut ∧ fault = .timeout) ∨
      ∃ number, outcome.ending = .signaled number ∧ fault = .signal number) :
    ofOutcome sig guard values outcome = .ok (.faulted fault) := by
  cases hreport : read sig outcome.stdout with
  | error reason =>
      have hreason : reason ≠ .badInput := by
        rintro rfl
        exact hread hreport
      rw [ofOutcome_of_error hreport hreason]
      rcases hending with ⟨hending, rfl⟩ | ⟨number, hending, rfl⟩
      · rw [hending]
        rfl
      · rw [hending]
        rfl
  | ok report =>
      rw [ofOutcome, hreport]
      rcases hending with ⟨hending, rfl⟩ | ⟨number, hending, rfl⟩
      · rw [hending]
      · rw [hending]

section Complete

variable {report : DriverReport} {ret : ReturnValue}

theorem ofReport_of_collected (code : Int) (hret : report.ret = some ret)
    (hcompleted : report.completed = true) {snapshots : List Snapshot}
    (hcollect : Snapshot.collect guard values report.memory 0 sig.params = .ok snapshots) :
    ofReport sig guard values code report = .completed ret snapshots := by
  simp only [ofReport, hret, hcompleted, hcollect]

theorem ofReport_of_uncollected (code : Int) (hret : report.ret = some ret)
    (hcompleted : report.completed = true) {fault : Fault}
    (hcollect : Snapshot.collect guard values report.memory 0 sig.params = .error fault) :
    ofReport sig guard values code report = .faulted fault := by
  simp only [ofReport, hret, hcompleted, hcollect]

end Complete

/-- What cannot be collected is the memory of an object without a report. -/
theorem exists_object_of_collect {memory : List (Nat × Bytes)} {fault : Fault}
    (hcollect : Snapshot.collect guard values memory 0 sig.params = .error fault) :
    ∃ index p, Object sig values index p ∧ (∀ content, (index, content) ∉ memory) ∧
      fault = .garbled ("no memory report for '" ++ p.name ++ "'") := by
  obtain ⟨o, ho, hnone, rfl⟩ := Snapshot.exists_unreported_of_collect hcollect
  obtain ⟨⟨p, i⟩, hentry, hobject⟩ := List.mem_filterMap.1 ho
  obtain ⟨hmutable, v, content, hv, hbehind, rfl⟩ := Snapshot.object?_eq_some_iff.1 hobject
  refine ⟨i, p, ⟨List.mem_zipIdx_iff_getElem?.1 hentry, hmutable, v, content, hv, hbehind⟩, ?_, rfl⟩
  intro bytes hmem
  have hsome := Snapshot.isSome_reported?_iff.2 ⟨bytes, hmem⟩
  have hmissing : Snapshot.reported? memory i = none := hnone
  rw [hmissing] at hsome
  cases hsome

/-- What is collected has a report for every object. -/
theorem exists_report_of_collect {memory : List (Nat × Bytes)} {snapshots : List Snapshot}
    (hcollect : Snapshot.collect guard values memory 0 sig.params = .ok snapshots) {index : Nat}
    {p : Param} (hobject : Object sig values index p) : ∃ content, (index, content) ∈ memory := by
  obtain ⟨hp, hmutable, v, passed, hv, hbehind⟩ := hobject
  have hmem := (Snapshot.mem_params_iff hcollect index).2 ⟨p, v, passed, hp, hmutable, hv, hbehind⟩
  obtain ⟨s, hs, rfl⟩ := List.mem_map.1 hmem
  have hreported := Snapshot.reported_of_collect hcollect hs
  exact Snapshot.isSome_reported?_iff.1 (Option.isSome_iff_exists.2 ⟨s.after, hreported⟩)

theorem diagnosis_ofOutcome (sig : Signature) (guard : Nat) (values : List ArgValue)
    (outcome : Outcome) :
    Diagnosis sig guard values outcome (ofOutcome sig guard values outcome) where
  refused_iff := by
    intro e
    cases hread : read sig outcome.stdout with
    | error fault =>
        by_cases hfault : fault = .badInput
        · subst hfault
          rw [ofOutcome, hread]
          simp [eq_comm]
        · rw [ofOutcome_of_error hread hfault]
          simp [hfault]
    | ok report =>
        rw [ofOutcome, hread]
        cases outcome.ending <;> simp
  timedOut := fun hread hending => ofOutcome_of_stopped hread (.inl ⟨hending, rfl⟩)
  signaled := fun hread number hending => ofOutcome_of_stopped hread (.inr ⟨number, hending, rfl⟩)
  garbled := by
    intro code fault hending hread hfault
    rw [ofOutcome_of_error hread hfault, hending]
    rfl
  early := by
    intro code report hending hread hmissing
    rw [ofOutcome_of_ok hread hending, ofReport]
    split
    · next hret hcompleted =>
        rw [hret, hcompleted] at hmissing
        simp at hmissing
    · rfl
  unreported := by
    rintro code report ret hending hread hret hcompleted ⟨index, p, hobject, hnone⟩
    rw [ofOutcome_of_ok hread hending]
    cases hcollect : Snapshot.collect guard values report.memory 0 sig.params with
    | ok snapshots =>
        obtain ⟨content, hmem⟩ := exists_report_of_collect hcollect hobject
        exact absurd hmem (hnone content)
    | error fault =>
        obtain ⟨i, q, hmissing, hno, rfl⟩ := exists_object_of_collect hcollect
        exact ⟨i, q, hmissing, hno,
          congrArg Except.ok (ofReport_of_uncollected code hret hcompleted hcollect)⟩
  completed := by
    intro code report ret hending hread hret hcompleted hall
    rw [ofOutcome_of_ok hread hending]
    cases hcollect : Snapshot.collect guard values report.memory 0 sig.params with
    | ok snapshots =>
        refine ⟨snapshots,
          congrArg Except.ok (ofReport_of_collected code hret hcompleted hcollect),
          Snapshot.shown_of_collect hcollect, ?_⟩
        intro s hs
        exact firstReport_of_reported? (Snapshot.reported_of_collect hcollect hs)
    | error fault =>
        obtain ⟨i, q, hmissing, hno, _⟩ := exists_object_of_collect hcollect
        obtain ⟨content, hmem⟩ := hall i q hmissing
        exact absurd hmem (hno content)
  notNull_iff := by
    intro input hinput index p v hp hmutable hv
    rw [Snapshot.notNull_iff_of_encode hinput hp hmutable hv]
    constructor
    · rintro ⟨_, _, v', passed, hv', hbehind⟩
      rw [hv] at hv'
      cases hv'
      exact ⟨passed, hbehind⟩
    · rintro ⟨passed, hbehind⟩
      exact ⟨hp, hmutable, v, passed, hv, hbehind⟩

end Execution

/-- However a program that was started has ended and whatever it printed, the execution is
classified in that order. -/
theorem execute_diagnosed {σ : Type} {bench : Bench σ} (config : Config) (sig : Signature)
    {program : String} (values : List ArgValue) {input : List Char} {outcome : Outcome} {s t : σ}
    (hlaunch : (bench.launch program (Text.utf8 input) (Trial.limits config)).run s =
      (.ok outcome, t)) :
    ∃ result, (ExceptT.run (Trial.execute bench config sig program values input)).run s =
        (result, t) ∧
      Execution.Diagnosis sig config.guardBytes values outcome result :=
  ⟨_, Trial.run_execute hlaunch,
    Execution.diagnosis_ofOutcome sig config.guardBytes values outcome⟩

namespace Crashed

open Reordered

/-- A program that ends with a given status, whatever it is given. -/
def bench (status : ExitStatus) : Bench Unit :=
  { Reordered.bench reordered with start := fun _ _ _ => pure (.ok (process reordered status)) }

theorem run_launch (status : ExitStatus) (program : String) (input : Bytes) (limits : Limits) :
    ((bench status).launch program input limits).run () =
      (.ok ⟨.ofStatus status, Text.utf8 reordered.toList⟩, ()) :=
  congrArg (·, ()) (supervise_process (by decide +kernel) status limits.timeoutNanos)

/-- What is reported: the memory behind `text` twice. -/
def memory : List (Nat × Bytes) := [(2, [0]), (0, [1, 5, 0xa5]), (2, [])]

theorem read_reordered : DriverReport.read sig (Text.utf8 reordered.toList) =
    .ok ⟨some .void, memory, true⟩ := by
  decide +kernel

theorem reported_of_object {index : Nat} {p : Param}
    (hobject : Execution.Object sig values index p) : ∃ content, (index, content) ∈ memory := by
  obtain ⟨hp, hmutable, v, passed, hv, hbehind⟩ := hobject
  rcases index with _ | _ | _ | _ | index
  · exact ⟨[1, 5, 0xa5], by decide⟩
  · cases hv
    cases hbehind
  · exact ⟨[0], by decide⟩
  · cases hp
    cases hmutable
  · cases hp

end Crashed

open Reordered Crashed in
/-- One report counts for nothing behind a crash, and counts with an exit code other than zero. -/
theorem execute_diagnosed_crashed :
    (ExceptT.run (Trial.execute (Crashed.bench (.signal 11)) config sig "f" values [])).run () =
      (.ok (.faulted (.signal 11)), ()) ∧
    ∃ snapshots,
      (ExceptT.run (Trial.execute (Crashed.bench (.code 3)) config sig "f" values [])).run () =
        (.ok (.completed .void snapshots), ()) ∧
      ∀ s ∈ snapshots, Execution.FirstReport memory s.param s.after := by
  constructor
  · obtain ⟨result, hrun, hdiagnosis⟩ :=
      execute_diagnosed config sig values
        (Crashed.run_launch (.signal 11) "f" (Text.utf8 []) (Trial.limits config))
    have hread : DriverReport.read sig (Text.utf8 reordered.toList) ≠ .error .badInput := by
      rw [read_reordered]
      simp
    rw [hrun, hdiagnosis.signaled hread 11 rfl]
  · obtain ⟨result, hrun, hdiagnosis⟩ := execute_diagnosed config sig values
      (Crashed.run_launch (.code 3) "f" (Text.utf8 []) (Trial.limits config))
    obtain ⟨snapshots, hresult, _, hfirst⟩ := hdiagnosis.completed 3 _ .void rfl read_reordered rfl
      rfl fun index p hobject => reported_of_object hobject
    exact ⟨snapshots, by rw [hrun, hresult], hfirst⟩

end Counterpart
