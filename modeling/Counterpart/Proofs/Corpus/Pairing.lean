/-
Pairing with a decompiled tree.  Every case is paired with the same source under two
directories.  A source that is relative and has no two points keeps the counterpart inside
the second directory; one that is absolute or goes up through two points may lead both
variants to one file.
-/
import Counterpart.Corpus.Registry
import Counterpart.Proofs.Except
import Counterpart.Proofs.Path.Follow

namespace Counterpart.CasePair

/-- The pairs are those of the cases, in their order. -/
theorem eq_map_of_ofRegistry {isFile : String → Bool} {registry : Registry}
    {corpusDir decompiledDir : String} {pairs : List CasePair}
    (hpairs : ofRegistry isFile registry corpusDir decompiledDir = .ok pairs) :
    pairs = registry.cases.map (under corpusDir decompiledDir) := by
  have hall := mapM_eq_ok_iff.1 hpairs
  rw [← List.forall₂_eq_eq_eq, List.forall₂_map_right_iff]
  refine hall.flip.imp ?_
  intro pair case hpair
  dsimp only [flip] at hpair
  split at hpair
  · exact (Except.ok.inj hpair).symm
  · cases hpair

/-- The pairs follow the cases in order, and both sources of a pair are the source of its case
under the two directories.  A relative source has its counterpart under the second directory
and never as the same path; without two points the counterpart leads into the second
directory in every tree of files, and both sources lead to one file only if one directory
lies in the other. -/
theorem ofRegistry_mirrors (isFile : String → Bool) (registry : Registry)
    (corpusDir decompiledDir : String) (pairs : List CasePair)
    (hapart : Path.Apart corpusDir decompiledDir)
    (hpairs : ofRegistry isFile registry corpusDir decompiledDir = .ok pairs) :
    pairs.map (·.case) = registry.cases ∧ ∀ pair ∈ pairs,
      pair.original = Path.join corpusDir pair.case.source ∧
      pair.decompiled = Path.join decompiledDir pair.case.source ∧
      (Path.isAbsolute pair.case.source = false →
        Path.IsPrefix decompiledDir pair.decompiled ∧
        ¬ Path.Same pair.decompiled pair.original ∧
        (".." ∉ Path.parts pair.case.source → ∀ (tree : FileTree) base place,
          tree.resolve? base pair.decompiled = some place →
            ∃ decompiledRoot, tree.reach? base decompiledDir = some decompiledRoot ∧
              decompiledRoot <+: place ∧
              (tree.resolve? base pair.original = some place →
                ∃ corpusRoot, tree.reach? base corpusDir = some corpusRoot ∧
                  (corpusRoot <+: decompiledRoot ∨ decompiledRoot <+: corpusRoot)))) := by
  have heq := eq_map_of_ofRegistry hpairs
  subst heq
  constructor
  · rw [List.map_map]
    exact List.map_id registry.cases
  · intro pair hpair
    obtain ⟨case, _, rfl⟩ := List.mem_map.1 hpair
    refine ⟨rfl, rfl, ?_⟩
    intro hrelative
    have hunder := Path.isPrefix_join decompiledDir hrelative
    refine ⟨hunder, ?_, ?_⟩
    · intro hsame
      have hother := Path.isPrefix_join corpusDir hrelative
      exact Path.not_isPrefix_of_apart hapart hother (hunder.of_same hsame)
    · intro hdots tree base place hplace
      obtain ⟨decompiledRoot, hreach, hbelow⟩ :=
        FileTree.exists_prefix_of_join hrelative hdots hplace
      refine ⟨decompiledRoot, hreach, hbelow, ?_⟩
      intro horiginal
      obtain ⟨corpusRoot, hcorpus, hcorpusBelow⟩ :=
        FileTree.exists_prefix_of_join hrelative hdots horiginal
      exact ⟨corpusRoot, hcorpus, List.prefix_or_prefix_of_prefix hcorpusBelow hbelow⟩

namespace Sources

/-- A source with its counterpart, and one that has none. -/
def tree : FileTree :=
  ⟨[(["corpus"], .directory), (["corpus", "f.c"], .file []), (["corpus", "g.c"], .file []),
    (["decompiled"], .directory), (["decompiled", "f.c"], .file [])]⟩

def case (source : String) : ReferenceCase :=
  ⟨⟨"f", [], .void⟩, .arithmetic, [], source, []⟩

/-- How a case with the given source is paired. -/
def pairs (source : String) : Except CorpusError (List CasePair) :=
  ofRegistry (tree.isFile []) ⟨[case source], [("f", 0)]⟩ "/corpus" "/decompiled"

theorem pairs_eq_ok {source : String}
    (hfile : tree.isFile [] (Path.join "/decompiled" source) = true) :
    pairs source = .ok [under "/corpus" "/decompiled" (case source)] := by
  refine mapM_eq_ok_iff.2 (.cons ?_ .nil)
  exact if_pos hfile

theorem apart : Path.Apart "/corpus" "/decompiled" := by
  have hneither : ¬ Path.components "/corpus" <+: Path.components "/decompiled" ∧
      ¬ Path.components "/decompiled" <+: Path.components "/corpus" := by
    decide +kernel
  exact ⟨fun hle => hneither.1 hle.2, fun hle => hneither.2 hle.2⟩

end Sources

open Sources in
theorem ofRegistry_mirrors_relative :
    Path.Apart "/corpus" "/decompiled" ∧ ∃ pair, pairs "f.c" = .ok [pair] ∧
      Path.IsPrefix "/decompiled" pair.decompiled ∧ ¬ Path.Same pair.decompiled pair.original := by
  have hfile : tree.isFile [] (Path.join "/decompiled" "f.c") = true := by
    decide +kernel
  have hpairs := pairs_eq_ok hfile
  have hall := ofRegistry_mirrors _ _ _ _ _ apart hpairs
  obtain ⟨_, _, hrelative⟩ := hall.2 _ List.mem_cons_self
  obtain ⟨hunder, hdifferent, _⟩ := hrelative (by decide +kernel)
  exact ⟨apart, _, hpairs, hunder, hdifferent⟩

open Sources in
/-- An absolute source is its own counterpart, and one that goes up through two points may
lead back to the original. -/
theorem ofRegistry_not_mirrors :
    Path.Apart "/corpus" "/decompiled" ∧
      (∃ pair, pairs "/corpus/g.c" = .ok [pair] ∧ pair.decompiled = pair.original ∧
        ¬ Path.IsPrefix "/decompiled" pair.decompiled) ∧
      ∃ pair, pairs "../corpus/g.c" = .ok [pair] ∧
        tree.resolve? [] pair.decompiled = some ["corpus", "g.c"] ∧
        tree.resolve? [] pair.original = some ["corpus", "g.c"] := by
  refine ⟨apart, ⟨_, pairs_eq_ok (by decide +kernel), by decide +kernel, ?_⟩,
    ⟨_, pairs_eq_ok (by decide +kernel), by decide +kernel, by decide +kernel⟩⟩
  rintro ⟨_, hprefix⟩
  revert hprefix
  decide +kernel

end Counterpart.CasePair
