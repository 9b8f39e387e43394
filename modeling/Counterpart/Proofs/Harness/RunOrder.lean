/-
The report on a run over a registry.  The cases of a registry have different names and a run tells
its entries case after case, so the rows of the report are those of the cases.
-/
import Counterpart.Proofs.History.Log
import Counterpart.Proofs.Report.CaseRows

namespace Counterpart

open Report

namespace Harness

variable {registry : Registry} {entries : List VerdictEntry}

theorem blocks_of_ofCase {cases : List ReferenceCase} {blocks : List (List VerdictEntry)}
    (hnames : (cases.map (·.name)).Nodup) (hall : List.Forall₂ OfCase cases blocks) :
    Blocks blocks.flatten := by
  induction hall with
  | nil => exact .nil
  | @cons case own cases blocks hfirst hall ih =>
      rw [List.map_cons, List.nodup_cons] at hnames
      rw [List.flatten_cons]
      -- A case without argument sets has no entries, and so no block.
      cases own with
      | nil => exact ih hnames.2
      | cons e own =>
          obtain ⟨htold, hown⟩ := List.forall_mem_cons.1 hfirst.told
          refine .block ?_ ?_ (ih hnames.2)
          · intro d hd
            rw [htold.1, htold.2]
            exact hown d hd
          · intro d hd hcase
            exact hnames.1 (htold.1 ▸ hcase ▸ case_mem_names hall d hd)

theorem RunOver.runOrdered (hbuilt : registry.Built) (hover : RunOver registry entries) :
    RunOrdered entries := by
  obtain ⟨blocks, hall, rfl⟩ := hover.exists_blocks
  exact (blocks_of_ofCase hbuilt.consistent.nodup_names hall).runOrdered

end Harness

/-- If the entries of each case stand together under one category, the report has one row for each
case, in the order in which the cases first appear, with the category of the case, the numbers of
its entries and passes, and the worst verdict among them; the categories count the cases that occur
in them, and so all rows together.  The entries of a run over a registry are of this kind. -/
theorem Report.summarize_tellsCases (entries : List VerdictEntry) :
    (RunOrdered entries → (summarize entries).TellsCases entries) ∧
      ∀ registry : Registry, registry.Built → Harness.RunOver registry entries →
        RunOrdered entries :=
  ⟨RunOrdered.tellsCases, fun _ hbuilt hover => hover.runOrdered hbuilt⟩

namespace Report

open History.Repeated

/-- The first verdict of the second case is the worse one, although it is declared before the
other. -/
def Uneven.entries : List VerdictEntry :=
  [entry "g" 0 .equivalent, entry "f" 0 .crashMismatch, entry "f" 1 .timeout]

theorem Uneven.blocks : Blocks entries := by
  have hlast : Blocks ([entry "f" 0 .crashMismatch, entry "f" 1 .timeout] ++ []) :=
    .block (by decide) (List.forall_mem_nil _) .nil
  exact @Blocks.block (entry "g" 0 .equivalent) [] _ (List.forall_mem_nil _) (by decide) hlast

/-- The row of the second case has its first verdict, and the four entries of a run over a registry
are told by case. -/
theorem summarize_tellsCases_uneven :
    ((summarize Uneven.entries).cases.map (·.name) = ["g", "f"] ∧
      ∃ row ∈ (summarize Uneven.entries).cases, row.worst = .crashMismatch ∧
        SumsUp row (casesOf "f" Uneven.entries)) ∧
    ∃ entries, Harness.RunOver registry entries ∧ entries.length = 4 ∧ RunOrdered entries ∧
      (summarize entries).TellsCases entries := by
  obtain ⟨entries, hover, hcount⟩ := exists_runOver
  have htells := (summarize_tellsCases Uneven.entries).1 Uneven.blocks.runOrdered
  obtain ⟨hordered, hrun⟩ := summarize_tellsCases entries
  have hrunOrdered := hrun registry built_registry hover
  refine ⟨⟨htells.names, _, List.mem_cons_of_mem _ List.mem_cons_self, rfl, ?_⟩, entries, hover,
    hcount, hrunOrdered, hordered hrunOrdered⟩
  exact htells.rows _ (List.mem_cons_of_mem _ List.mem_cons_self)

end Report

end Counterpart
