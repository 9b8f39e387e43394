/-
What can be observed of one execution of one variant: the result, the memory behind
mutable pointers before and after the call, or the fault that ended it early.
-/
import Counterpart.Scalar.Value
import Counterpart.Signature.Basic
import Counterpart.Text.Quoted
import Counterpart.Text.Utf8

namespace Counterpart

/-- Where a pointer points, relative to the objects passed to the call. -/
inductive PointerTarget where
  | null
  /-- An offset into the object behind a parameter. -/
  | param (param offset : Nat)
  | foreign
  deriving DecidableEq, Repr

/-- A result as the driver observes it. -/
inductive ReturnValue where
  | void
  | scalar (v : ScalarValue)
  | pointer (target : PointerTarget)
  /-- A string, or none for a null pointer. -/
  | str (content : Option Bytes)
  deriving DecidableEq, Repr

/-- How a result is shown. -/
def ReturnValue.text : ReturnValue → List Char
  | .void => "void".toList
  | .scalar v => v.text
  | .pointer .null => "NULL".toList
  | .pointer (.param param offset) =>
      "&arg".toList ++ Text.decimal param ++ "[+".toList ++ Text.decimal offset ++ [']']
  | .pointer .foreign => "<foreign pointer>".toList
  | .str none => "NULL".toList
  | .str (some content) => Text.quoted (Text.lossy content)

/-- The memory behind one mutable pointer, around the call. -/
structure Snapshot where
  param : Nat
  name : String
  /-- The number of bytes of the object; what lies behind them is guard. -/
  logicalLen : Nat
  before : Bytes
  after : Bytes
  ignore : List ByteRange
  deriving DecidableEq, Repr

/-- Whether the byte takes part in comparisons.  The guard always does. -/
def Snapshot.isObserved (s : Snapshot) (index : Nat) : Bool :=
  s.logicalLen ≤ index || !s.ignore.any (·.contains index)

/-- How an execution ended without a complete report. -/
inductive Fault where
  | signal (number : Int)
  /-- The process ended by itself before the driver had reported everything. -/
  | exit (code : Int)
  | timeout
  /-- The report could not be understood. -/
  | garbled (reason : String)
  deriving DecidableEq, Repr

/-- How a fault is shown. -/
def Fault.text : Fault → String
  | .signal number => s!"killed by signal {number}"
  | .exit code => s!"exited early with status {code}"
  | .timeout => "timed out"
  | .garbled reason => "garbled report (" ++ reason ++ ")"

/-- What one execution shows. -/
inductive Execution where
  | completed (ret : ReturnValue) (snapshots : List Snapshot)
  | faulted (fault : Fault)
  deriving DecidableEq, Repr

end Counterpart
