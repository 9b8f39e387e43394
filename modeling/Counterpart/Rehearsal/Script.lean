/-
Scripts.  In a rehearsal a source is no program but a text that says what happens when it
is compiled, linked and run.
-/
import Counterpart.Document
import Counterpart.Json.Read
import Counterpart.Text.Utf8
import Counterpart.Trial.Bench

namespace Counterpart

/-- How a step of building ends badly. -/
inductive ScriptFault where
  /-- The compiler does not start. -/
  | spawn
  /-- The compiler fails with diagnostics. -/
  | stderr (text : String)
  deriving DecidableEq, Repr

/-- One execution of a program. -/
structure ScriptRun where
  stdout : Bytes
  ending : Ending
  /-- Whether the program reports its input in place of `stdout`. -/
  echoes : Bool
  deriving DecidableEq, Repr

/-- What happens to a source. -/
structure Script where
  compileFault : Option ScriptFault
  linkFault : Option ScriptFault
  /-- Whether linking leaves no executable behind. -/
  isVanishing : Bool
  /-- The executions in order; the last one is repeated. -/
  runs : List ScriptRun
  deriving DecidableEq, Repr

namespace ScriptFault

def ofJson? : Json → Option ScriptFault
  | .string _ => some .spawn
  | .object members => ((Json.object members).member? "stderr").bind fun text =>
      (Document.text? text).map stderr
  | _ => none

end ScriptFault

namespace ScriptRun

/-- An execution that prints nothing and ends well. -/
def silent : ScriptRun := ⟨[], .exited 0, false⟩

/-- The ending that a node names; a process ends well where nothing is said.  A status is
a byte. -/
def endingOf : Option Json → Ending
  | some (.int code) => .exited (code % 256)
  | some (.string _) => .timedOut
  | some node => .signaled (((node.member? "signal").bind Document.int?).getD 0)
  | none => .exited 0

/-- The output of an execution, as a text or as digits. -/
def stdoutOf (node : Json) : Bytes :=
  match (node.member? "out_hex").bind Document.text? with
  | some digits => (Text.hexPairs? digits.toList).getD []
  | none => (((node.member? "out").bind Document.text?).getD "").toUTF8.data.toList

def ofJson (node : Json) : ScriptRun :=
  { stdout := stdoutOf node
    ending := endingOf (node.member? "end")
    echoes := ((node.member? "echo").bind Document.bool?).getD false }

/-- The report of a program that returns its input as a string. -/
def echo (input : Bytes) : Bytes :=
  Text.utf8 ("@@EQ RET S ".toList ++ Text.decimal input.length ++ ' ' :: Text.hexBytes input ++
    "\n@@EQ END\n".toList)

/-- What the execution prints on an input. -/
def output (run : ScriptRun) (input : Bytes) : Bytes :=
  if run.echoes then echo input else run.stdout

/-- The status of an execution that ends by itself. -/
def status? (run : ScriptRun) : Option ExitStatus :=
  match run.ending with
  | .exited code => some (.code code)
  | .signaled number => some (.signal number.toNat)
  | .timedOut => none

/-- The process of the execution.  It has ended when it is first looked at, or else its time is
up by then. -/
def process (run : ScriptRun) (input : Bytes) (limits : Limits) : Process :=
  { pieces := [run.output input]
    look := fun _ => .ok run.status?
    delay := fun _ => limits.timeoutNanos }

end ScriptRun

namespace Script

/-- A source that is built without trouble. -/
def plain : Script := ⟨none, none, false, []⟩

def ofJson (node : Json) : Script :=
  { compileFault := (node.member? "compile").bind ScriptFault.ofJson?
    linkFault := (node.member? "link").bind ScriptFault.ofJson?
    isVanishing := ((node.member? "no_exe").bind Document.bool?).getD false
    runs := (((node.member? "runs").bind Document.items?).getD []).map ScriptRun.ofJson }

/-- The script in a source; a source that is none is built without trouble. -/
def ofSource (content : Bytes) : Script :=
  match (Text.utf8? content).bind Json.read? with
  | some node => ofJson node
  | none => plain

/-- The execution number `n`, counted from zero. -/
def nth (script : Script) (n : Nat) : ScriptRun :=
  (script.runs[n]?).getD (script.runs.getLast?.getD .silent)

end Script

end Counterpart
