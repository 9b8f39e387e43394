/-
The two variants of a case, and why a trial of them is called off.
-/
import Counterpart.Exchange.Error
import Counterpart.Toolchain.Basic

namespace Counterpart

/-- The two sides of a case. -/
inductive Variant where
  | original
  | decompiled
  deriving DecidableEq, Repr

namespace Variant

def all : List Variant := [.original, .decompiled]

def label : Variant → String
  | .original => "original"
  | .decompiled => "decompiled"

/-- The variant of a label. -/
def ofLabel? (label : String) : Option Variant :=
  all.find? (·.label == label)

end Variant

/-- Why a trial is called off.  A variant that misbehaves is no reason. -/
inductive TrialError where
  | io (path reason : String)
  | driver (case : String) (fault : ToolchainError)
  | toolchain (fault : ToolchainError)
  | exchange (fault : ExchangeError)
  | launch (program reason : String)
  deriving DecidableEq, Repr

/-- The sentence shown for a trial error. -/
def TrialError.message : TrialError → String
  | .io path reason => "I/O error on " ++ path ++ ": " ++ reason
  | .driver case fault =>
      "harness driver for '" ++ case ++ "' failed to build (malformed signature?): " ++
        fault.message
  | .toolchain fault => "toolchain unavailable: " ++ fault.message
  | .exchange fault => "protocol error: " ++ fault.message
  | .launch program reason => "failed to launch " ++ program ++ ": " ++ reason

/-- Actions on a bench that may call the trial off. -/
abbrev Trial (σ : Type) := ExceptT TrialError (StateM σ)

end Counterpart
