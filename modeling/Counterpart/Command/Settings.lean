/-
What most commands start with: the configuration and the corpus.
-/
import Counterpart.Command.Host
import Counterpart.Corpus.Manifest

namespace Counterpart

namespace Config

/-- The configuration of a document, if there is one, with overrides.  It must be without
fault before they apply and after. -/
def settle (yaml : DocumentReader) (base : Config) (document : Option (String × Option Bytes))
    (overrides : ConfigOverrides) : Except CommandError Config := do
  let loaded ← match document with
    | none => .ok base
    | some (path, content) => (load yaml base path content).mapError (.config path)
  let config := overrides.apply loaded
  match config.validate with
  | .error fault => .error (.settings fault)
  | .ok () => .ok config

end Config

namespace Host

variable {m : Type → Type} [Monad m]

/-- The configuration of a command. -/
def loadConfig (host : Host m) (yaml : DocumentReader) (path : Option String)
    (overrides : ConfigOverrides) : CommandM m Config := do
  let base := Config.default (← host.surroundings)
  let document ← match path with
    | none => pure none
    | some path => do pure (some (path, ← host.read path))
  ExceptT.mk (pure (Config.settle yaml base document overrides))

/-- Of some paths those which lead to files. -/
def present (host : Host m) (paths : List String) : m (List String) :=
  paths.filterM fun path => host.isFile path

/-- The registry of the corpus in a directory. -/
def loadRegistry (host : Host m) (yaml : DocumentReader) (dir : String) : CommandM m Registry := do
  let fail (fault : CorpusError) : CommandError := .corpus dir fault
  let found ← host.present (manifestNames.map (Path.join dir))
  match Manifest.find? (found.contains ·) dir with
  | none => throw (fail (.missingManifest dir))
  | some path =>
      match ← host.read path with
      | none => throw (fail (.io path))
      | some content =>
          match Manifest.parse yaml path content with
          | .error fault => throw (fail fault)
          | .ok cases =>
              let sources ← host.present (cases.map fun case => Path.join dir case.source)
              ExceptT.mk (pure
                ((Manifest.registerAll (sources.contains ·) dir .empty cases).mapError fail))

end Host

end Counterpart
