/-
The report of a driver, read from the standard output of the process.  The lines of
the report are marked; every other line belongs to the function under comparison and
is skipped.
-/
import Counterpart.Exchange.Error
import Counterpart.Execution
import Counterpart.Text.Lines

namespace Counterpart

/-- Everything a driver printed. -/
structure DriverReport where
  ret : Option ReturnValue
  /-- Parameter positions with the bytes behind them after the call, guard included. -/
  memory : List (Nat × Bytes)
  /-- Whether the driver reached its last line. -/
  completed : Bool
  deriving DecidableEq, Repr

namespace DriverReport

open Text

/-- The report in which nothing is known yet. -/
def empty : DriverReport := ⟨none, [], false⟩

/-- The mark at the start of the lines of a report. -/
def mark : List Char := "@@EQ ".toList

/-- A fault of the line as it stands. -/
def malformed (line : List Char) : ExchangeError :=
  .malformed (String.ofList line)

/-- Bytes with their announced number; without digits there are none. -/
def sizedBytes? (length : List Char) (digits : Option (List Char)) : Option Bytes := do
  let n ← nat64? length
  let content ← hexPairs? (digits.getD [])
  if content.length = n then some content else none

/-- The result on a line, for a declared type. -/
def returnValue? (ty : ReturnType) (fields : List (List Char)) : Option ReturnValue :=
  match ty, fields with
  | .void, [form] => if form = ['V'] then some .void else none
  | .scalar t, [form, digits] =>
      if form = (if t.isInteger then ['I'] else ['F']) then
        (natBelow? (2 ^ 64) 16 digits).map fun n =>
          .scalar (ScalarValue.ofBits t (BitVec.ofNat 64 n))
      else none
  | .pointer, [form, target] =>
      if form ≠ ['P'] then none
      else if target = "NULL".toList then some (.pointer .null)
      else if target = "FOREIGN".toList then some (.pointer .foreign)
      else none
  | .pointer, [form, param, offset] =>
      if form ≠ ['P'] then none
      else do some (.pointer (.param (← nat64? param) (← nat64? offset)))
  | .cstring, [form, length] =>
      if form ≠ ['S'] then none
      else if length = "NULL".toList then some (.str none)
      else (sizedBytes? length none).map fun content => .str (some content)
  | .cstring, [form, length, digits] =>
      if form ≠ ['S'] then none
      else (sizedBytes? length (some digits)).map fun content => .str (some content)
  | _, _ => none

/-- Whether the parameter at a position is a pointer through which the function may
write. -/
def isMutableAt (sig : Signature) (index : Nat) : Bool :=
  (sig.params[index]?).any (·.ty.isMutablePointer)

/-- The memory behind a parameter. -/
def withMemory (sig : Signature) (line index length : List Char)
    (digits : Option (List Char)) (report : DriverReport) : Except ExchangeError DriverReport :=
  match nat64? index with
  | none => .error (malformed line)
  | some i =>
      if !isMutableAt sig i then .error (.unexpectedMemory i)
      else match sizedBytes? length digits with
        | none => .error (malformed line)
        | some content => .ok { report with memory := report.memory ++ [(i, content)] }

/-- The result of the call, of which there is at most one. -/
def withReturn (sig : Signature) (line : List Char) (fields : List (List Char))
    (report : DriverReport) : Except ExchangeError DriverReport :=
  if report.ret.isSome then .error (malformed line)
  else match returnValue? sig.ret fields with
    | none => .error (malformed line)
    | some value => .ok { report with ret := some value }

/-- The report after a marked line with the given words. -/
def withFields (sig : Signature) (line : List Char) (report : DriverReport) :
    List (List Char) → Except ExchangeError DriverReport
  | [] => .error (malformed line)
  | keyword :: fields =>
      if keyword = "RET".toList then withReturn sig line fields report
      else if keyword = "MEM".toList then
        match fields with
        | [index, length] => withMemory sig line index length none report
        | [index, length, digits] => withMemory sig line index length (some digits) report
        | _ => .error (malformed line)
      else if fields ≠ [] then .error (malformed line)
      else if keyword = "BADINPUT".toList then .error .badInput
      else if keyword = "END".toList then .ok { report with completed := true }
      else .error (malformed line)

/-- The line without the carriage returns at its end. -/
def dropReturns (line : List Char) : List Char :=
  (line.reverse.dropWhile (· == '\r')).reverse

/-- The report after one more line of output. -/
def withLine (sig : Signature) (report : DriverReport) (line : List Char) :
    Except ExchangeError DriverReport :=
  let line := dropReturns line
  match dropFront? mark line with
  | none => .ok report
  | some rest => withFields sig line report (words rest)

/-- The report after further lines. -/
def withLines (sig : Signature) (report : DriverReport) :
    List (List Char) → Except ExchangeError DriverReport
  | [] => .ok report
  | line :: rest => (withLine sig report line).bind fun next => withLines sig next rest

/-- The report in an output. -/
def read (sig : Signature) (stdout : Bytes) : Except ExchangeError DriverReport :=
  withLines sig empty (pieces '\n' (lossy stdout))

end DriverReport

end Counterpart
