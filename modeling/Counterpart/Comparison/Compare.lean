/-
Comparing two executions of the same arguments.  Memory is compared byte by byte where
it is observed, results by value; numbers may differ within a relative tolerance.
-/
import Counterpart.Comparison.Verdict
import Counterpart.Execution

namespace Counterpart

/-- A verdict with what it rests on; there is nothing to say of executions that agree
completely. -/
structure Comparison where
  verdict : Verdict
  detail : Option String
  deriving DecidableEq, Repr

namespace Comparison

/-- Whether two numbers count as equal.  What is no number equals only its like; a
tolerance of zero asks for equal bits, any other bounds the difference relative to the
greater magnitude. -/
def floatsMatch (tolerance : Double) (a b : ScalarValue) : Bool :=
  let x := a.toDouble
  let y := b.toDouble
  if x.isNaN || y.isNaN then x.isNaN && y.isNaN
  else if tolerance.eq Double.zero then a.bits == b.bits
  else if x.eq y then true
  else (x.sub y).abs.le (tolerance.mul (x.abs.max y.abs))

/-- Whether two results count as equal. -/
def returnsMatch (tolerance : Double) : ReturnValue → ReturnValue → Bool
  | .scalar a, .scalar b =>
      if a.ty.isFloat && a.ty == b.ty then floatsMatch tolerance a b else a == b
  | a, b => a == b

/-- The first observed byte at which two snapshots differ. -/
def firstByte? (a b : Snapshot) : Option Nat :=
  (List.range (max a.after.length b.after.length)).find? fun i =>
    a.isObserved i && a.after[i]? != b.after[i]?

/-- A byte as it is shown; two dashes stand for a missing one. -/
def byteText (b : Option UInt8) : List Char :=
  match b with
  | some b => Text.hexByte b
  | none => ['-', '-']

/-- The sentence on a byte at which two snapshots differ. -/
def byteDetail (a b : Snapshot) (i : Nat) : String :=
  let region :=
    if i < a.logicalLen then s!"byte {i}" else s!"guard byte {i - a.logicalLen}"
  "'" ++ a.name ++ "' " ++ region ++ ": original " ++ String.ofList (byteText a.after[i]?) ++
    " vs decompiled " ++ String.ofList (byteText b.after[i]?)

/-- The sentence on the first difference between snapshots at common positions. -/
def commonDetail? : List Snapshot → List Snapshot → Option String
  | a :: as, b :: bs =>
      match firstByte? a b with
      | some i => some (byteDetail a b i)
      | none => commonDetail? as bs
  | _, _ => none

/-- The sentence on the first difference between two lists of snapshots. -/
def memoryDetail? (original decompiled : List Snapshot) : Option String :=
  match commonDetail? original decompiled with
  | some detail => some detail
  | none =>
      if original.length = decompiled.length then none
      else some s!"{original.length} vs {decompiled.length} memory snapshots"

/-- The sentence on two results that differ. -/
def returnDetail? (tolerance : Double) (original decompiled : ReturnValue) : Option String :=
  if returnsMatch tolerance original decompiled then none
  else some ("returned " ++ String.ofList original.text ++ " vs " ++ String.ofList decompiled.text)

/-- The comparison of two complete executions, from what differs in each respect. -/
def ofDetails (memory ret : Option String) : Comparison :=
  match memory, ret with
  | none, none => ⟨.equivalent, none⟩
  | some memory, none => ⟨.sideEffectMismatch, some memory⟩
  | none, some ret => ⟨.valueMismatch, some ret⟩
  | some memory, some ret => ⟨.sideEffectMismatch, some (memory ++ "; " ++ ret)⟩

end Comparison

/-- The comparison of two executions of the same arguments. -/
def compare (tolerance : Double) (original decompiled : Execution) : Comparison :=
  match original, decompiled with
  | .faulted a, .faulted b =>
      if a = b then ⟨.equivalentByFault, some ("both " ++ a.text)⟩
      else ⟨.crashMismatch, some ("original " ++ a.text ++ ", decompiled " ++ b.text)⟩
  | .faulted .timeout, .completed _ _ =>
      ⟨.timeout, some "original timed out, decompiled completed"⟩
  | .completed _ _, .faulted .timeout =>
      ⟨.timeout, some "decompiled timed out, original completed"⟩
  | .faulted a, .completed _ _ =>
      ⟨.crashMismatch, some ("original " ++ a.text ++ ", decompiled completed")⟩
  | .completed _ _, .faulted b =>
      ⟨.crashMismatch, some ("decompiled " ++ b.text ++ ", original completed")⟩
  | .completed ret snapshots, .completed ret' snapshots' =>
      Comparison.ofDetails (Comparison.memoryDetail? snapshots snapshots')
        (Comparison.returnDetail? tolerance ret ret')

end Counterpart
