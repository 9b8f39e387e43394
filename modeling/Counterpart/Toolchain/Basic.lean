/-
What is asked of a C compiler, and what can come back: jobs, the ways a process ends, and
the ways a job fails.
-/
import Counterpart.Text.Numeral

namespace Counterpart

/-- How a process ended by itself. -/
inductive ExitStatus where
  | code (value : Int)
  | signal (number : Nat)
  deriving DecidableEq, Repr

namespace ExitStatus

/-- The names of the signals, from one on. -/
def signalNames : List String :=
  [ "SIGHUP", "SIGINT", "SIGQUIT", "SIGILL", "SIGTRAP", "SIGABRT", "SIGBUS", "SIGFPE", "SIGKILL",
    "SIGUSR1", "SIGSEGV", "SIGUSR2", "SIGPIPE", "SIGALRM", "SIGTERM", "SIGSTKFLT", "SIGCHLD",
    "SIGCONT", "SIGSTOP", "SIGTSTP", "SIGTTIN", "SIGTTOU", "SIGURG", "SIGXCPU", "SIGXFSZ",
    "SIGVTALRM", "SIGPROF", "SIGWINCH", "SIGIO", "SIGPWR", "SIGSYS" ]

/-- The name of a signal, if it has one. -/
def signalName? (number : Nat) : Option String :=
  if number = 0 then none else signalNames[number - 1]?

/-- How the status is shown. -/
def text : ExitStatus → String
  | code value => s!"exit status: {value}"
  | signal number =>
      match signalName? number with
      | some name => s!"signal: {number} (" ++ name ++ ")"
      | none => s!"signal: {number}"

/-- Whether the status reports success. -/
def isSuccess (s : ExitStatus) : Bool := s == code 0

end ExitStatus

/-- The two steps in which a program is built. -/
inductive Stage where
  | compile
  | link
  deriving DecidableEq, Repr

def Stage.label : Stage → String
  | .compile => "compile"
  | .link => "link"

/-- How one source is to be compiled. -/
structure CompileJob where
  source : String
  output : String
  /-- A header that stands in front of the source. -/
  forcedHeader : Option String
  includeDirs : List String
  /-- Whether a `main` in the source gets another name. -/
  renamesMain : Bool
  deriving DecidableEq, Repr

/-- Which objects are to be linked. -/
structure LinkJob where
  objects : List String
  output : String
  deriving DecidableEq, Repr

/-- Why a compiler did not do a job. -/
inductive ToolchainError where
  | spawn (compiler reason : String)
  | failed (stage : Stage) (input : String) (status : ExitStatus) (stderr : String)
  | probe (reason : String)
  deriving DecidableEq, Repr

namespace ToolchainError

/-- The sentence shown for a toolchain error. -/
def message : ToolchainError → String
  | spawn compiler reason => "failed to spawn compiler '" ++ compiler ++ "': " ++ reason
  | failed stage input status _ =>
      stage.label ++ " of " ++ input ++ " failed (" ++ status.text ++ ")"
  | probe reason => "compiler probe failed: " ++ reason

/-- The diagnostics of the compiler, if it ran. -/
def stderr? : ToolchainError → Option String
  | failed _ _ _ stderr => some stderr
  | _ => none

end ToolchainError

end Counterpart
