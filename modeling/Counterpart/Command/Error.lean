/-
Why a command gives up.  An error is told with all its causes, the outermost first.
-/
import Counterpart.Corpus.Error
import Counterpart.Harness.Case
import Counterpart.History.Table

namespace Counterpart

/-- The sentences on a corpus error and its causes. -/
def CorpusError.chain (e : CorpusError) : List String :=
  e.message ::
    match e with
    | .invalidSignature _ fault => [fault.message]
    | .invalidType _ _ fault => [fault.message]
    | _ => []

/-- The sentences on a toolchain error and its causes. -/
def ToolchainError.chain (e : ToolchainError) : List String :=
  e.message ::
    match e with
    | .spawn _ reason => [reason]
    | _ => []

/-- The sentences on a trial error and its causes. -/
def TrialError.chain (e : TrialError) : List String :=
  e.message ::
    match e with
    | .io _ reason => [reason]
    | .driver _ fault => fault.chain
    | .toolchain _ => []
    | .exchange fault => [fault.message]
    | .launch _ reason => [reason]

/-- The sentences on a harness error and its causes. -/
def HarnessError.chain : HarnessError → List String
  | .toolchain fault => fault.chain
  | e@(.input _ fault) => [e.message, fault.message]
  | e@(.trial _ fault) => e.message :: fault.chain
  | e@(.workdir reason) => [e.message, reason]

/-- Why a command gives up. -/
inductive CommandError where
  /-- A directory that is not there, with what it was wanted for. -/
  | directory (what path : String)
  | config (path : String) (fault : ConfigError)
  | settings (fault : ConfigError)
  | corpus (dir : String) (fault : CorpusError)
  | pairing (fault : CorpusError)
  | unknownCase (case : String) (known : List String)
  | inputs (case : String) (fault : InputError)
  | run (fault : HarnessError)
  | header (path : String)
  | reportDirectory (path : String)
  | report (path : String)
  | historyMissing (path : String)
  | history (path : String) (fault : HistoryError)
  | noRuns (path : String)
  | singleRun
  | comparison (base head : Int) (fault : HistoryError)
  /-- A recorded digest whose head would end inside a character. -/
  | digest (run : Int)

namespace CommandError

/-- The sentences on a command error and its causes. -/
def chain : CommandError → List String
  | directory what path => [what ++ " directory not found: " ++ path]
  | config path fault => ["Failed to load config " ++ path, fault.message]
  | settings fault => ["Invalid harness configuration", fault.message]
  | corpus dir fault => ("Failed to load corpus at " ++ dir) :: fault.chain
  | pairing fault => "Failed to pair corpus with decompiled output" :: fault.chain
  | unknownCase case known =>
      ["Unknown case '" ++ case ++ "'. Known cases: " ++ String.intercalate ", " known]
  | inputs case fault => ["Failed to generate inputs for '" ++ case ++ "'", fault.message]
  | run fault => "Harness run failed" :: fault.chain
  | header path => ["Failed to write header to " ++ path]
  | reportDirectory path => ["Failed to create report directory " ++ path]
  | report path => ["Failed to write report to " ++ path]
  | historyMissing path => ["History database not found at " ++ path]
  | history path fault => ["Failed to open history database at " ++ path, fault.message]
  | noRuns path => ["No runs recorded in " ++ path]
  | singleRun => ["Need at least two runs to compare; pass --base explicitly"]
  | comparison base head fault =>
      [s!"Failed to compare run {base} with run {head}", fault.message]
  | digest id => [s!"digest of run {id} cannot be shortened"]

/-- The error with all its causes in one line. -/
def message (e : CommandError) : String :=
  String.intercalate ": " e.chain

/-- Whether the cause lies outside the program, so that its words are those of the operating system
or of the reader of a file format. -/
def isExternal : CommandError → Bool
  | config _ (.io _) | config _ (.parse _) => true
  | corpus _ (.manifest _) | corpus _ (.io _) => true
  | header _ | reportDirectory _ | report _ => true
  | history _ .damaged => true
  | run (.workdir _) | run (.toolchain (.spawn _ _)) => true
  | run (.trial _ (.io _ _)) | run (.trial _ (.launch _ _)) => true
  | run (.trial _ (.toolchain (.spawn _ _))) => true
  | _ => false

end CommandError

end Counterpart
