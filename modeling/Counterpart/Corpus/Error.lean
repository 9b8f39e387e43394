/-
What can be wrong with a corpus.
-/
import Counterpart.Signature.Validate
import Counterpart.ValueType.Read

namespace Counterpart

/-- The names under which the manifest of a corpus is looked for, in order. -/
def manifestNames : List String := ["corpus.yaml", "corpus.yml", "corpus.json"]

/-- Why a corpus was not loaded or paired. -/
inductive CorpusError where
  | duplicateName (case : String)
  | invalidSignature (case : String) (fault : SignatureError)
  | invalidType (case param : String) (fault : TypeError)
  | missingManifest (dir : String)
  /-- The manifest does not have the form of one. -/
  | manifest (path : String)
  /-- The manifest cannot be read. -/
  | io (path : String)
  | missingSource (case path : String)
  | missingDecompiled (case path : String)
  deriving DecidableEq, Repr

/-- The sentence shown for a corpus error. -/
def CorpusError.message : CorpusError → String
  | .duplicateName case => "case '" ++ case ++ "' is already registered"
  | .invalidSignature case fault =>
      "case '" ++ case ++ "' has an invalid signature: " ++ fault.message
  | .invalidType case param fault =>
      "case '" ++ case ++ "', parameter '" ++ param ++ "': " ++ fault.message
  | .missingManifest dir =>
      "no corpus manifest (" ++ String.intercalate ", " manifestNames ++ ") found in " ++ dir
  | .manifest path => "failed to parse manifest " ++ path
  | .io path => "I/O error on " ++ path
  | .missingSource case path => "source for case '" ++ case ++ "' not found at " ++ path
  | .missingDecompiled case path =>
      "no decompiled counterpart for case '" ++ case ++ "' (expected " ++ path ++ ")"

end Counterpart
