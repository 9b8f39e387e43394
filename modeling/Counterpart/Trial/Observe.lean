/-
What an execution shows.  How the process ended counts before what it printed, and a
report counts only if it is complete.
-/
import Counterpart.Argument.Value
import Counterpart.Exchange.Driver
import Counterpart.Exchange.Report
import Counterpart.Trial.Bench
import Counterpart.Trial.Error

namespace Counterpart

namespace Snapshot

/-- The memory reported for a parameter. -/
def reported? (memory : List (Nat × Bytes)) (index : Nat) : Option Bytes :=
  (memory.find? (·.1 == index)).map (·.2)

/-- The snapshot of a mutable pointer, from the bytes passed and the bytes reported. -/
def ofBytes (guard index : Nat) (p : Param) (passed after : Bytes) : Snapshot :=
  { param := index
    name := p.name
    logicalLen := passed.length
    before := passed ++ List.replicate guard Driver.guardByte
    after := after
    ignore := p.ignore }

/-- The snapshots of parameters from a position on.  Every mutable pointer that is passed
must have its memory reported. -/
def collect (guard : Nat) (values : List ArgValue) (memory : List (Nat × Bytes)) :
    (index : Nat) → List Param → Except Fault (List Snapshot)
  | _, [] => .ok []
  | index, p :: ps =>
      if !p.ty.isMutablePointer then collect guard values memory (index + 1) ps
      else match (values[index]?).bind (·.pointee?) with
        | none => collect guard values memory (index + 1) ps
        | some passed =>
            match reported? memory index with
            | none => .error (.garbled ("no memory report for '" ++ p.name ++ "'"))
            | some after => do
                let rest ← collect guard values memory (index + 1) ps
                .ok (ofBytes guard index p passed after :: rest)

end Snapshot

namespace Execution

/-- The fault of an ending whose output is not understood. -/
def garbledFault (reason : String) : Ending → Fault
  | .exited _ => .garbled reason
  | .signaled number => .signal number
  | .timedOut => .timeout

/-- What a process that ended by itself shows by its report. -/
def ofReport (sig : Signature) (guard : Nat) (values : List ArgValue) (code : Int)
    (report : DriverReport) : Execution :=
  match report.ret, report.completed with
  | some ret, true =>
      match Snapshot.collect guard values report.memory 0 sig.params with
      | .ok snapshots => .completed ret snapshots
      | .error fault => .faulted fault
  | _, _ => .faulted (.exit code)

/-- What the outcome of a process shows.  A driver that refuses its input is the fault of
nobody but the harness. -/
def ofOutcome (sig : Signature) (guard : Nat) (values : List ArgValue) (outcome : Outcome) :
    Except TrialError Execution :=
  match DriverReport.read sig outcome.stdout with
  | .error .badInput => .error (.exchange .badInput)
  | .error fault => .ok (.faulted (garbledFault fault.message outcome.ending))
  | .ok report =>
      match outcome.ending with
      | .timedOut => .ok (.faulted .timeout)
      | .signaled number => .ok (.faulted (.signal number))
      | .exited code => .ok (ofReport sig guard values code report)

end Execution

end Counterpart
