/-
What a report tells of the entries it is made from.  The counts of verdicts, the rows of the
categories, the rows of the cases and the list of failures are four views of the same entries,
and none of them loses an entry or tells one twice, in whatever order the entries come.
-/
import Counterpart.Proofs.Counting
import Counterpart.Report.Basic

namespace Counterpart

theorem Verdict.mem_all (v : Verdict) : v ∈ all := by
  cases v <;> decide

theorem Verdict.nodup_all : all.Nodup := by
  decide

theorem Verdict.isPass_iff (v : Verdict) :
    v.isPass = true ↔ v = .equivalent ∨ v = .equivalentByFault := by
  cases v <;> simp [isPass]

/-- The labels ascend in the order of the categories. -/
theorem Category.labels_ascend : all.Pairwise fun c d => c.label < d.label := by
  decide +kernel

namespace Report

variable {entries : List VerdictEntry}

/-- The count of a verdict among counts, zero if it is not listed. -/
def countIn (counts : List VerdictCount) (v : Verdict) : Nat :=
  ((counts.find? (·.verdict == v)).map (·.count)).getD 0

/-- Counts list every verdict once, in the order of reports, with the number of its entries. -/
structure Tallies (counts : List VerdictCount) (entries : List VerdictEntry) : Prop where
  order : counts.map (·.verdict) = Verdict.all
  once : ∀ v, (counts.map (·.verdict)).count v = 1
  exact : ∀ row ∈ counts, row.count = entries.countP (·.verdict == row.verdict)

theorem tallies_tally (entries : List VerdictEntry) : Tallies (tally entries) entries where
  order := rfl
  once := fun v => List.count_eq_one_of_mem Verdict.nodup_all v.mem_all
  exact := by
    intro row hrow
    obtain ⟨v, _, rfl⟩ := List.mem_map.1 hrow
    rfl

theorem Tallies.countIn_eq {counts : List VerdictCount} (htallies : Tallies counts entries)
    (v : Verdict) : countIn counts v = entries.countP (·.verdict == v) := by
  obtain ⟨row, hrow⟩ : ∃ row, counts.find? (·.verdict == v) = some row := by
    have hlisted : v ∈ counts.map (·.verdict) := by
      rw [htallies.order]
      exact v.mem_all
    obtain ⟨row, hmem, hverdict⟩ := List.mem_map.1 hlisted
    exact Option.isSome_iff_exists.1 (List.find?_isSome.2 ⟨row, hmem, beq_iff_eq.2 hverdict⟩)
  have hverdict : row.verdict = v := by simpa using List.find?_some hrow
  rw [countIn, hrow, ← hverdict]
  exact htallies.exact row (List.mem_of_find?_eq_some hrow)

theorem Tallies.sum_eq {counts : List VerdictCount} (htallies : Tallies counts entries) :
    (counts.map (·.count)).sum = entries.length := by
  have hcounts : counts.map (·.count) = (counts.map (·.verdict)).map fun v =>
      (entries.filter (·.verdict == v)).countP fun _ => true := by
    rw [List.map_map]
    apply List.map_congr_left
    intro row hrow
    rw [htallies.exact row hrow, Function.comp_apply, List.countP_true,
      List.countP_eq_length_filter]
  have hkeys : ∀ e ∈ entries, e.verdict ∈ Verdict.all := fun e _ => e.verdict.mem_all
  have hsum := sum_countP_key Verdict.nodup_all VerdictEntry.verdict (fun _ => true) hkeys
  rw [hcounts, htallies.order, hsum, List.countP_true]

/-- The entries of a category. -/
def entriesOf (c : Category) (entries : List VerdictEntry) : List VerdictEntry :=
  entries.filter (·.category == c)

/-- The categories that occur, in the order of their labels. -/
def occurring (entries : List VerdictEntry) : List Category :=
  Category.all.filter fun c => entries.any (·.category == c)

theorem mem_occurring_iff (c : Category) :
    c ∈ occurring entries ↔ c ∈ entries.map (·.category) := by
  simp [occurring, c.mem_all]

theorem entriesOf_eq_nil_iff (c : Category) :
    entriesOf c entries = [] ↔ entries.any (·.category == c) = false := by
  rw [entriesOf, List.filter_eq_nil_iff, List.any_eq_false]

theorem categoryRows_eq (entries : List VerdictEntry) :
    categoryRows entries =
      (occurring entries).map fun c => categoryRow c (entriesOf c entries) := by
  rw [occurring, ← List.filterMap_eq_filter, List.map_filterMap, categoryRows]
  apply List.filterMap_congr
  intro c _
  have hfilter : entries.filter (·.category == c) = entriesOf c entries := rfl
  simp only [hfilter]
  by_cases hown : entriesOf c entries = []
  · have hnone := (entriesOf_eq_nil_iff c).1 hown
    simp [hown, hnone, Option.guard]
  · have hsome : entries.any (·.category == c) = true := by
      rw [← Bool.not_eq_false, ← entriesOf_eq_nil_iff]
      exact hown
    split
    · contradiction
    · simp [hsome, Option.guard]

/-- Counting category by category, every entry is counted once. -/
theorem sum_countP_entriesOf (p : VerdictEntry → Bool) (entries : List VerdictEntry) :
    ((occurring entries).map fun c => (entriesOf c entries).countP p).sum = entries.countP p := by
  have hkeys : ∀ e ∈ entries, e.category ∈ occurring entries := by
    intro e he
    rw [mem_occurring_iff]
    exact List.mem_map_of_mem he
  exact sum_countP_key (Category.nodup_all.filter _) VerdictEntry.category p hkeys

section CaseRows

variable {f : CaseSummary → Nat} {p : VerdictEntry → Bool}
  (hfirst : ∀ e, f (CaseSummary.ofEntry e) = if p e = true then 1 else 0)
  (hpush : ∀ row e, f (CaseSummary.push row e) = f row + if p e = true then 1 else 0)

include hfirst hpush

/-- What a row counts of its entries, the rows together count of all that remain. -/
theorem sum_caseRowsFrom (row : CaseSummary) (rest : List VerdictEntry) :
    ((caseRowsFrom row rest).map f).sum = f row + rest.countP p := by
  induction rest generalizing row with
  | nil => simp [caseRowsFrom]
  | cons e rest ih =>
      rw [caseRowsFrom, List.countP_cons]
      by_cases hname : row.name = e.case
      · rw [if_pos hname, ih, hpush]
        omega
      · rw [if_neg hname, List.map_cons, List.sum_cons, ih, hfirst]
        omega

theorem sum_caseRows (entries : List VerdictEntry) :
    ((caseRows entries).map f).sum = entries.countP p := by
  rcases entries with _ | ⟨e, rest⟩
  · rfl
  · rw [caseRows, sum_caseRowsFrom hfirst hpush, hfirst, List.countP_cons, Nat.add_comm]

end CaseRows

/-- A report conserves its entries if each of its views does: the totals, the counts of verdicts,
the rows of the categories that occur, the rows of the cases and the list of failures. -/
structure Conserves (r : Report) (entries : List VerdictEntry) : Prop where
  total_eq : r.total = entries.length
  passed_eq : r.passed = entries.countP (·.verdict.isPass)
  split : r.total = r.passed + r.failed
  counts : Tallies r.counts entries
  counts_sum : (r.counts.map (·.count)).sum = r.total
  /-- A category has a row exactly if it occurs, and the labels ascend strictly. -/
  category_iff : ∀ c, c ∈ r.categories.map (·.category) ↔ c ∈ entries.map (·.category)
  labels_ascend : (r.categories.map (·.category.label)).Pairwise (· < ·)
  /-- A row of a category counts the entries of the category and no others. -/
  category_row : ∀ row ∈ r.categories,
    row = categoryRow row.category (entriesOf row.category entries) ∧
    row.total = (entriesOf row.category entries).length ∧
    row.passed = (entriesOf row.category entries).countP (·.verdict.isPass) ∧
    Tallies row.counts (entriesOf row.category entries)
  categories_total : (r.categories.map (·.total)).sum = r.total
  categories_passed : (r.categories.map (·.passed)).sum = r.passed
  categories_counts : ∀ v, (r.categories.map fun row => countIn row.counts v).sum = r.count v
  cases_total : (r.cases.map (·.total)).sum = r.total
  cases_passed : (r.cases.map (·.passed)).sum = r.passed
  /-- The failures are in the order of the entries, each as often as it occurs there. -/
  failures_sublist : r.failures.Sublist entries
  failures_count : ∀ e, r.failures.count e = if e.verdict.isPass then 0 else entries.count e
  allPassed_iff : r.allPassed = true ↔
    ∀ e ∈ entries, e.verdict = .equivalent ∨ e.verdict = .equivalentByFault

theorem failed_eq_zero_iff (entries : List VerdictEntry) :
    entries.length - passes entries = 0 ↔ ∀ e ∈ entries, e.verdict.isPass = true := by
  have hle : passes entries ≤ entries.length := List.countP_le_length
  rw [← List.countP_eq_length, ← passes]
  omega

theorem map_category_categoryRows (entries : List VerdictEntry) :
    (categoryRows entries).map (·.category) = occurring entries := by
  rw [categoryRows_eq, List.map_map]
  exact List.map_id _

/-- What the rows of categories count of their entries, they count together of all entries. -/
theorem sum_categoryRows {f : CategorySummary → Nat} {p : VerdictEntry → Bool}
    (hrow : ∀ c own, f (categoryRow c own) = own.countP p) (entries : List VerdictEntry) :
    ((categoryRows entries).map f).sum = entries.countP p := by
  rw [categoryRows_eq, List.map_map, ← sum_countP_entriesOf p entries]
  congr 1
  apply List.map_congr_left
  intro c _
  exact hrow c _

/-- The report on a list of entries conserves them, whatever their order, names and categories. -/
theorem summarize_conserves (entries : List VerdictEntry) :
    (summarize entries).Conserves entries where
  total_eq := rfl
  passed_eq := rfl
  split := (Nat.add_sub_of_le List.countP_le_length).symm
  counts := tallies_tally entries
  counts_sum := (tallies_tally entries).sum_eq
  category_iff := by
    intro c
    change c ∈ (categoryRows entries).map (·.category) ↔ _
    rw [map_category_categoryRows]
    exact mem_occurring_iff c
  labels_ascend := by
    change ((categoryRows entries).map (Category.label ∘ CategorySummary.category)).Pairwise _
    rw [← List.map_map, map_category_categoryRows, List.pairwise_map]
    exact Category.labels_ascend.filter _
  category_row := by
    intro row hrow
    change row ∈ categoryRows entries at hrow
    rw [categoryRows_eq] at hrow
    obtain ⟨c, _, rfl⟩ := List.mem_map.1 hrow
    exact ⟨rfl, rfl, rfl, tallies_tally _⟩
  categories_total := by
    have hsum := sum_categoryRows (f := (·.total)) (p := fun _ => true)
      (fun _ own => (congrFun List.countP_true own).symm) entries
    rw [List.countP_true] at hsum
    exact hsum
  categories_passed := sum_categoryRows (fun _ _ => rfl) entries
  categories_counts := by
    intro v
    have hsum := sum_categoryRows (f := fun row => countIn row.counts v)
      (fun _ own => (tallies_tally own).countIn_eq v) entries
    exact hsum.trans ((tallies_tally entries).countIn_eq v).symm
  cases_total := by
    have hsum := sum_caseRows (f := (·.total)) (p := fun _ => true) (fun _ => rfl)
      (fun _ _ => rfl) entries
    rw [List.countP_true] at hsum
    exact hsum
  cases_passed := sum_caseRows (fun _ => rfl) (fun _ _ => rfl) entries
  failures_sublist := List.filter_sublist
  failures_count := by
    intro e
    change (entries.filter fun e => !e.verdict.isPass).count e = _
    by_cases hpass : e.verdict.isPass = true
    · rw [if_pos hpass, List.count_eq_zero]
      intro hmem
      simp [hpass] at hmem
    · rw [if_neg hpass, List.count_filter (by simpa using hpass)]
  allPassed_iff := by
    rw [allPassed, beq_iff_eq]
    refine (failed_eq_zero_iff entries).trans (forall₂_congr fun e _ => ?_)
    exact e.verdict.isPass_iff

end Report

end Counterpart
