/-
The registry of cases.  Every case in it has a signature that can be run, and no two have
the same name; the cases stand in the order in which they were registered.
-/
import Counterpart.Case
import Counterpart.Corpus.Error
import Counterpart.Path

namespace Counterpart

/-- The cases of a run, in order of registration, with an index of their names. -/
structure Registry where
  cases : List ReferenceCase
  /-- Where the case of a name stands, the latest name first. -/
  index : List (String × Nat)

namespace Registry

/-- The registry without cases. -/
def empty : Registry := ⟨[], []⟩

/-- The case of that name. -/
def get? (registry : Registry) (name : String) : Option ReferenceCase :=
  (registry.index.lookup name).bind (registry.cases[·]?)

/-- The names of the cases. -/
def names (registry : Registry) : List String :=
  registry.cases.map (·.name)

/-- Takes one more case, and gives it the next place under its name. -/
def submit (case : ReferenceCase) : ExceptT CorpusError (StateM Registry) Unit := do
  match case.signature.validate with
  | .error fault => throw (.invalidSignature case.name fault)
  | .ok () => pure ()
  if ((← get).index.lookup case.name).isSome then
    throw (.duplicateName case.name)
  modify fun registry =>
    { registry with index := (case.name, registry.cases.length) :: registry.index }
  modify fun registry => { registry with cases := registry.cases ++ [case] }

/-- The registry with one more case. -/
def register (registry : Registry) (case : ReferenceCase) : Except CorpusError Registry :=
  match (submit case).run.run registry with
  | (.ok (), next) => .ok next
  | (.error fault, _) => .error fault

/-- How many cases the categories that occur have, in the order of the labels. -/
def categoryCounts (registry : Registry) : List (Category × Nat) :=
  Category.all.filterMap fun c =>
    match registry.cases.countP (·.category == c) with
    | 0 => none
    | n => some (c, n)

end Registry

/-- A case with the sources of its two variants. -/
structure CasePair where
  case : ReferenceCase
  original : String
  decompiled : String

namespace CasePair

/-- The case with the same relative path under two directories. -/
def under (corpusDir decompiledDir : String) (case : ReferenceCase) : CasePair :=
  ⟨case, Path.join corpusDir case.source, Path.join decompiledDir case.source⟩

/-- Every case with its counterpart, which must be there. -/
def ofRegistry (isFile : String → Bool) (registry : Registry)
    (corpusDir decompiledDir : String) : Except CorpusError (List CasePair) :=
  registry.cases.mapM fun case =>
    let pair := under corpusDir decompiledDir case
    if isFile pair.decompiled then .ok pair
    else .error (.missingDecompiled case.name pair.decompiled)

/-- Every case with its own source for a counterpart. -/
def selfCheck (registry : Registry) (corpusDir : String) : List CasePair :=
  registry.cases.map fun case =>
    let source := Path.join corpusDir case.source
    ⟨case, source, source⟩

end CasePair

end Counterpart
