/-
The entries of a run over a registry come case after case, one for each argument set.  No two
cases of a registry share a name and the argument sets of a case are numbered, so no two entries
have the same key, whatever the bench does and however the workers interleave.
-/
import Counterpart.Proofs.Corpus.Pairing
import Counterpart.Proofs.Corpus.Registration
import Counterpart.Proofs.Forall
import Counterpart.Proofs.Generate.Numbering
import Counterpart.Proofs.Harness.Interleaving
import Counterpart.Proofs.History.Row

namespace Counterpart

/-- The registries that registration leads to. -/
inductive Registry.Built : Registry → Prop
  | empty : Built Registry.empty
  | register {registry next : Registry} {case : ReferenceCase} (hbuilt : Built registry)
      (hnext : registry.register case = .ok next) : Built next

namespace Registry

theorem Built.consistent {registry : Registry} (hbuilt : registry.Built) :
    registry.Consistent := by
  induction hbuilt with
  | empty => exact .empty
  | register _ hnext ih => exact ih.submitted (submitted_of_run (run_of_register hnext))

end Registry

/-- The pairs of a registry: its cases against a decompiled tree, or against themselves. -/
inductive CasePair.Paired (registry : Registry) : List CasePair → Prop
  | decompiled {isFile : String → Bool} {corpusDir decompiledDir : String} {pairs : List CasePair}
      (hpairs : ofRegistry isFile registry corpusDir decompiledDir = .ok pairs) :
      Paired registry pairs
  | itself (corpusDir : String) : Paired registry (selfCheck registry corpusDir)

theorem CasePair.Paired.map_case {registry : Registry} {pairs : List CasePair}
    (hpaired : Paired registry pairs) : pairs.map (·.case) = registry.cases := by
  cases hpaired with
  | decompiled hpairs =>
      rw [eq_map_of_ofRegistry hpairs, List.map_map]
      exact List.map_id registry.cases
  | itself =>
      rw [selfCheck, List.map_map]
      exact List.map_id registry.cases

namespace Harness

variable {σ : Type} {bench : Bench σ} {config : Config} {pair : CasePair}
  {sets : List ArgumentSet} {entries : List VerdictEntry}

/-- An entry of an argument set of a case, whatever came of it. -/
def OfSet (case : ReferenceCase) (set : ArgumentSet) (entry : VerdictEntry) : Prop :=
  ∃ verdict detail, entry = .ofSet case set verdict detail

theorem ofSets_entriesIn {workdir : String} {s t : σ}
    (hgives : Gives (entriesIn bench config pair sets workdir) s entries t) :
    List.Forall₂ (OfSet pair.case) sets entries := by
  obtain ⟨built, t', _, hrest⟩ := gives_bind_iff.1 hgives
  cases built with
  | failure variant diagnostics =>
      cases hrest
      rw [failureEntries, List.forall₂_map_right_iff, List.forall₂_same]
      exact fun set _ => ⟨_, _, rfl⟩
  | ready prepared =>
      refine (forall₂_of_gives_mapM hrest).imp ?_
      rintro set entry ⟨_, _, hentry⟩
      obtain ⟨_, _, _, hpure⟩ := gives_bind_iff.1 hentry
      cases hpure
      exact ⟨_, _, rfl⟩

/-- A case comes to one entry for each of its argument sets, in their order. -/
theorem ComesTo.ofSets {ready : σ → Prop}
    (hcomes : ComesTo bench config ready (pair, sets) entries) :
    List.Forall₂ (OfSet pair.case) sets entries := by
  obtain ⟨s, _, hentries⟩ := hcomes
  unfold runCase at hentries
  rcases hopened : bench.openWorkdir.run s with ⟨reason | workdir, t⟩
  · rw [StateT.run_bind, hopened] at hentries
    cases hentries
  · rw [StateT.run_bind, hopened] at hentries
    have hresult := mapError_eq_ok_iff.1 hentries
    exact ofSets_entriesIn (Prod.ext hresult rfl)

theorem keys_ofSets {case : ReferenceCase} (hsets : List.Forall₂ (OfSet case) sets entries) :
    entries.map (·.key) = sets.map fun set => (case.name, set.index) := by
  refine map_eq_of_forall₂ hsets ?_
  rintro set entry ⟨_, _, rfl⟩
  rfl

/-- The entries of a case have the keys of its argument sets. -/
theorem ComesTo.keys {ready : σ → Prop} (hcomes : ComesTo bench config ready (pair, sets) entries) :
    entries.map (·.key) = sets.map fun set => (pair.case.name, set.index) :=
  keys_ofSets hcomes.ofSets

/-- Entries of a case, no two with the same key. -/
structure OfCase (case : ReferenceCase) (own : List VerdictEntry) : Prop where
  told : ∀ e ∈ own, e.case = case.name ∧ e.category = case.category
  nodup : (own.map (·.key)).Nodup

theorem ofCase_of_ofSets {case : ReferenceCase} (hindex : (sets.map (·.index)).Nodup)
    (hsets : List.Forall₂ (OfSet case) sets entries) : OfCase case entries where
  told := by
    intro e he
    obtain ⟨set, _, _, _, rfl⟩ := exists_mem_of_forall₂ hsets he
    exact ⟨rfl, rfl⟩
  nodup := by
    have hparts : sets.map (fun set => (case.name, set.index)) =
        (sets.map (·.index)).map (Prod.mk case.name) := List.map_map.symm
    rw [keys_ofSets hsets, hparts]
    exact hindex.map fun _ _ h => (Prod.mk.inj h).2

/-- The argument sets of a case are numbered, so what the cases come to is theirs. -/
theorem ofCase_of_comesTo {ready : σ → Prop} {pairs : List CasePair} {seed count : Nat}
    {generated : List (List ArgumentSet)} {blocks : List (List VerdictEntry)}
    (hgenerated : generateAll config pairs seed count = .ok generated)
    (hall : List.Forall₂ (ComesTo bench config ready) (pairs.zip generated) blocks) :
    List.Forall₂ OfCase (pairs.map (·.case)) blocks := by
  have hsets := mapM_eq_ok_iff.1 hgenerated
  clear hgenerated
  induction hsets generalizing blocks with
  | nil =>
      cases hall
      exact .nil
  | cons hfirst _ ih =>
      obtain _ | ⟨hcomes, hall⟩ := hall
      have hindex := Generate.map_index_setsFrom (mapError_eq_ok_iff.1 hfirst)
      exact .cons (ofCase_of_ofSets (hindex ▸ List.nodup_range) hcomes.ofSets) (ih hall)

section Blocks

variable {cases : List ReferenceCase} {blocks : List (List VerdictEntry)}

theorem case_mem_names (hall : List.Forall₂ OfCase cases blocks) :
    ∀ e ∈ blocks.flatten, e.case ∈ cases.map (·.name) := by
  intro e he
  obtain ⟨own, hown, he⟩ := List.mem_flatten.1 he
  obtain ⟨case, hcase, hof⟩ := exists_mem_of_forall₂ hall hown
  rw [(hof.told e he).1]
  exact List.mem_map_of_mem hcase

/-- Cases with different names come to entries with different keys. -/
theorem nodup_keys_of_ofCase (hnames : (cases.map (·.name)).Nodup)
    (hall : List.Forall₂ OfCase cases blocks) : (blocks.flatten.map (·.key)).Nodup := by
  induction hall with
  | nil => exact List.nodup_nil
  | @cons case own cases blocks hfirst hall ih =>
      rw [List.map_cons, List.nodup_cons] at hnames
      rw [List.flatten_cons, List.map_append, List.nodup_append]
      refine ⟨hfirst.nodup, ih hnames.2, ?_⟩
      intro key hkey other hother heq
      obtain ⟨e, he, rfl⟩ := List.mem_map.1 hkey
      obtain ⟨d, hd, rfl⟩ := List.mem_map.1 hother
      have hcase : d.case = case.name :=
        (Prod.mk.inj heq).1.symm.trans (hfirst.told e he).1
      exact hnames.1 (hcase ▸ case_mem_names hall d hd)

end Blocks

variable {registry : Registry}

/-- The entries that a run over a registry may come to, on any bench: those of its summary, or
those of any interleaving of the workers that is not called off. -/
inductive RunOver (registry : Registry) : List VerdictEntry → Prop
  | summary {σ : Type} {bench : Bench σ} {config : Config} {pairs : List CasePair}
      {seed count : Nat} {s t : σ} {summary : RunSummary}
      (hpaired : CasePair.Paired registry pairs)
      (hrun : Gives (run bench config pairs seed count) s summary t) :
      RunOver registry summary.entries
  | interleaved {σ : Type} {bench : Bench σ} {config : Config} {ready : σ → Prop}
      {pairs : List CasePair} {seed count : Nat} {generated : List (List ArgumentSet)}
      {events : List (PoolEvent HarnessError (List VerdictEntry))}
      {last : Pool HarnessError (List VerdictEntry)} {blocks : List (List VerdictEntry)}
      (hpaired : CasePair.Paired registry pairs)
      (hgenerated : generateAll config pairs seed count = .ok generated)
      (hinter : Interleaved bench config ready (pairs.zip generated) events last)
      (houtcome : last.outcome = .ok blocks) :
      RunOver registry blocks.flatten

/-- However the workers interleave, the entries of a run over a registry are those of its cases,
case after case. -/
theorem RunOver.exists_blocks (hover : RunOver registry entries) :
    ∃ blocks, List.Forall₂ OfCase registry.cases blocks ∧ blocks.flatten = entries := by
  cases hover with
  | interleaved hpaired hgenerated hinter houtcome =>
      rw [← hpaired.map_case]
      exact ⟨_, ofCase_of_comesTo hgenerated (hinter.comesTo houtcome), rfl⟩
  | @summary σ bench config pairs seed count s t summary hpaired hrun =>
      obtain ⟨version, s', _, hrun⟩ := gives_bind_iff.1 hrun
      obtain ⟨generated, s'', hgenerated, hrun⟩ := gives_bind_iff.1 hrun
      obtain ⟨blocks, t', hblocks, hrun⟩ := gives_bind_iff.1 hrun
      cases hrun
      have hsets : generateAll config pairs seed count = .ok generated := (Prod.mk.inj hgenerated).1
      obtain ⟨events, last, hinter, houtcome⟩ := exists_interleaved_runCases (fun _ => True) bench
        config (fun _ _ _ _ => trivial) s'' trivial
      have hlast : last.outcome = .ok blocks := houtcome.symm.trans (congrArg Prod.fst hblocks)
      rw [← hpaired.map_case]
      exact ⟨blocks, ofCase_of_comesTo hsets (hinter.comesTo hlast), rfl⟩

/-- No two entries of a run over a registry have the same key. -/
theorem RunOver.nodup_keys (hbuilt : registry.Built) (hover : RunOver registry entries) :
    (entries.map (·.key)).Nodup := by
  obtain ⟨blocks, hall, rfl⟩ := hover.exists_blocks
  exact nodup_keys_of_ofCase hbuilt.consistent.nodup_names hall

end Harness

end Counterpart
