/-
One execution of a program under limits.  The process is looked at from time to time, until
it has ended or its time is up and it is killed.  Its output is read to the end, however long
it is, and kept up to a limit.
-/
import Counterpart.Text.Hex
import Counterpart.Toolchain.Basic

namespace Counterpart

/-- How the execution of a program ended. -/
inductive Ending where
  | exited (code : Int)
  | signaled (number : Int)
  | timedOut
  deriving DecidableEq, Repr

/-- What an execution leaves behind. -/
structure Outcome where
  ending : Ending
  stdout : Bytes
  deriving DecidableEq, Repr

/-- The limits of one execution. -/
structure Limits where
  timeoutNanos : Nat
  memoryBytes : Option Nat
  deriving DecidableEq, Repr

/-- The ending of a process that ended by itself. -/
def Ending.ofStatus : ExitStatus → Ending
  | .code value => .exited value
  | .signal number => .signaled number

/-- A process that was started, as the one who started it meets it. -/
structure Process where
  /-- What the reads of its output bring, one after another up to the end of the output. -/
  pieces : List Bytes
  /-- What each look at it finds: its status if it has ended, or why it cannot be looked at. -/
  look : Nat → Except String (Option ExitStatus)
  /-- The nanoseconds by which each look comes later than the pauses in front of it take. -/
  delay : Nat → Nat

namespace Process

/-- The pause between two looks, in nanoseconds. -/
def pause : Nat := 5 * 10 ^ 6

/-- How many bytes of an output are kept. -/
def captureLimit : Nat := 16 * 1024 * 1024

/-- The time of a look, counted from the start. -/
def lookedAt (p : Process) (n : Nat) : Nat :=
  n * pause + p.delay n

/-- Waits for the end of a process that has been looked at `n` times. -/
def await (p : Process) (timeout n : Nat) : Except String Ending :=
  match p.look n with
  | .error reason => .error reason
  | .ok (some status) => .ok (.ofStatus status)
  | .ok none =>
      if timeout ≤ p.lookedAt n then .ok .timedOut
      else p.await timeout (n + 1)
termination_by timeout - n * pause
decreasing_by
  have hpause : (n + 1) * pause = n * pause + pause := Nat.succ_mul n pause
  have hpositive : 0 < pause := by decide
  simp only [lookedAt] at *
  omega

/-- What is kept of an output, with one more piece of it. -/
def keep (kept piece : Bytes) : Bytes :=
  kept ++ piece.take (captureLimit - kept.length)

/-- What is kept of the output. -/
def captured (p : Process) : Bytes :=
  p.pieces.foldl keep []

/-- What is left of the process once it has ended, by itself or at the end of its time. -/
def supervise (p : Process) (timeout : Nat) : Except String Outcome :=
  (p.await timeout 0).map fun ending => ⟨ending, p.captured⟩

end Process

end Counterpart
