/-
The commands that show a corpus: its cases, and the argument sets of one of them.
-/
import Counterpart.Command.Settings
import Counterpart.Record.Execution

namespace Counterpart

namespace ReferenceCase

/-- The entry of a case in a list of cases. -/
def listing (case : ReferenceCase) : Json :=
  .object [("name", .string case.name), ("category", .string case.category.label),
    ("signature", .string (String.ofList case.signature.text)), ("source", .string case.source),
    ("tags", .list .string case.tags), ("explicit_rows", .nat case.explicit.length)]

/-- The line of a case in a list of cases. -/
def listingLine (case : ReferenceCase) : String :=
  "- " ++ case.name ++ " [" ++ case.category.label ++ "] " ++ String.ofList case.signature.text

end ReferenceCase

/-- The lines that show a registry. -/
def Registry.listingLines (registry : Registry) : List String :=
  if registry.cases.isEmpty then ["Cases: (none)"]
  else
    ["Cases:"] ++ registry.cases.map (·.listingLine) ++ ["", "Categories:"] ++
      registry.categoryCounts.map fun (category, n) => "- " ++ category.label ++ s!": {n}"

/-- The lines that show the argument sets of a signature. -/
def Signature.inputLines (sig : Signature) (sets : List ArgumentSet) : List String :=
  String.ofList sig.text ::
    sets.map fun set => "  " ++ String.ofList (set.text?.getD [])

namespace Host

variable {m : Type → Type} [Monad m]

/-- Lists the cases of a corpus. -/
def listCases (host : Host m) (yaml : DocumentReader) (corpus : String) (json : Bool) :
    CommandM m Unit := do
  let registry ← host.loadRegistry yaml corpus
  if json then host.printJson (.list ReferenceCase.listing registry.cases)
  else host.printLines registry.listingLines

/-- Shows the argument sets of a case. -/
def showInputs (host : Host m) (yaml : DocumentReader) (corpus name : String) (seed count : Nat)
    (config : Option String) (json : Bool) : CommandM m Unit := do
  let config ← host.loadConfig yaml config .none
  let registry ← host.loadRegistry yaml corpus
  match registry.get? name with
  | none => throw (.unknownCase name registry.names)
  | some case =>
      match Generate.setsFor config.generator case seed count with
      | .error fault => throw (.inputs name fault)
      | .ok sets =>
          if json then host.printJson (.list ArgumentSet.toJson sets)
          else host.printLines (case.signature.inputLines sets)

end Host

end Counterpart
