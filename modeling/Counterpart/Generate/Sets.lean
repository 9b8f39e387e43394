/-
The argument sets of a case: boundary rows, then the explicit rows of the manifest,
then random rows until there are enough.  The random rows depend only on the seed and
on how the signature is written.
-/
import Counterpart.Generate.Explicit
import Counterpart.Generate.Random
import Counterpart.Random.Digest

namespace Counterpart.Generate

/-- The stream of a signature under a seed. -/
def streamFor (sig : Signature) (seed : Nat) : Stream :=
  let seedBytes := (List.range 8).map fun i => UInt8.ofNat (seed / 256 ^ i % 256)
  ChaCha.stream (Digest.sha256 (seedBytes ++ Text.utf8 sig.text))

/-- Sets from rows that are built one after another, at most `count` of them, numbered
from `index`. -/
def fixedSets (provenance : Provenance) (build : ρ → Except InputError (List ArgValue)) :
    (count index : Nat) → List ρ → Except InputError (List ArgumentSet)
  | 0, _, _ => .ok []
  | _ + 1, _, [] => .ok []
  | count + 1, index, row :: rows => do
      let values ← build row
      let rest ← fixedSets provenance build count (index + 1) rows
      .ok (⟨index, provenance, values⟩ :: rest)

/-- `count` random sets, numbered from `index`. -/
def randomSets (config : GeneratorConfig) (sig : Signature) :
    (count index : Nat) → Stream → Except InputError (List ArgumentSet)
  | 0, _, _ => .ok []
  | count + 1, index, stream => do
      let (values, stream) ← (RandomRow.build config sig).run stream
      let rest ← randomSets config sig count (index + 1) stream
      .ok (⟨index, .random, values⟩ :: rest)

/-- The first `count` sets of a signature with explicit rows, from a given stream. -/
def setsFrom (stream : Stream) (config : GeneratorConfig) (sig : Signature)
    (explicit : List (List ExplicitValue)) (count : Nat) :
    Except InputError (List ArgumentSet) := do
  let boundary ← fixedSets .boundary (fun row => row.build config sig) count 0
    (BoundaryRow.rows sig)
  let numbered := (List.range explicit.length).zip explicit
  let written ← fixedSets .explicit (fun (i, row) => ExplicitRow.build i config sig row)
    (count - boundary.length) boundary.length numbered
  let fixed := boundary ++ written
  let random ← randomSets config sig (count - fixed.length) fixed.length stream
  .ok (fixed ++ random)

/-- The first `count` sets of a case. -/
def setsFor (config : GeneratorConfig) (case : ReferenceCase) (seed count : Nat) :
    Except InputError (List ArgumentSet) :=
  setsFrom (streamFor case.signature seed) config case.signature case.explicit count

end Counterpart.Generate
