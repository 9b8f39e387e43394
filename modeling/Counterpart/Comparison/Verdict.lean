/-
Verdicts on a pair of executions and their order by severity.
-/

namespace Counterpart

/-- What the comparison of two executions comes to. -/
inductive Verdict where
  | equivalent
  | equivalentByFault
  | valueMismatch
  | sideEffectMismatch
  | crashMismatch
  | compileFailure
  | timeout
  deriving DecidableEq, Repr

namespace Verdict

/-- Every verdict, in the order of reports, which is that of severity. -/
def all : List Verdict :=
  [equivalent, equivalentByFault, valueMismatch, sideEffectMismatch, timeout, compileFailure,
    crashMismatch]

def label : Verdict → String
  | equivalent => "equivalent"
  | equivalentByFault => "equivalent_by_fault"
  | valueMismatch => "value_mismatch"
  | sideEffectMismatch => "side_effect_mismatch"
  | crashMismatch => "crash_mismatch"
  | compileFailure => "compile_failure"
  | timeout => "timeout"

/-- The verdict of a label. -/
def ofLabel? (label : String) : Option Verdict :=
  all.find? (·.label == label)

/-- The greater, the worse. -/
def severity : Verdict → Nat
  | equivalent => 0
  | equivalentByFault => 1
  | valueMismatch => 2
  | sideEffectMismatch => 3
  | timeout => 4
  | compileFailure => 5
  | crashMismatch => 6

/-- Whether the two variants behaved alike. -/
def isPass : Verdict → Bool
  | equivalent | equivalentByFault => true
  | _ => false

/-- The more severe of two verdicts. -/
def worst (v w : Verdict) : Verdict :=
  if v.severity < w.severity then w else v

end Verdict

end Counterpart
