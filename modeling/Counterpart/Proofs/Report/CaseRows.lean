/-
The rows of a report on entries that are told case after case.  The rows of the cases are made by
joining entries to the last row, and the cases of a category by passing over repeated names; both
are right because the entries of a case stand together, and so form one block each.
-/
import Counterpart.Proofs.Report.Conservation

namespace Counterpart.Report

/-- The entries of a case stand together and carry one category. -/
structure RunOrdered (entries : List VerdictEntry) : Prop where
  together : ∀ a d b, [a, d, b].Sublist entries → a.case = b.case → d.case = a.case
  category : ∀ a ∈ entries, ∀ b ∈ entries, a.case = b.case → a.category = b.category

/-- The entries of a case. -/
def casesOf (name : String) (entries : List VerdictEntry) : List VerdictEntry :=
  entries.filter (·.case == name)

/-- A row sums up the entries of its case; the worst verdict occurs among them and none of them is
more severe. -/
structure SumsUp (row : CaseSummary) (own : List VerdictEntry) : Prop where
  category : ∀ e ∈ own, e.category = row.category
  total : row.total = own.length
  passed : row.passed = own.countP (·.verdict.isPass)
  occurs : ∃ e ∈ own, e.verdict = row.worst
  worst : ∀ e ∈ own, e.verdict.severity ≤ row.worst.severity

section Row

theorem Verdict.severity_le_worst (v w : Verdict) :
    v.severity ≤ (v.worst w).severity ∧ w.severity ≤ (v.worst w).severity := by
  unfold Verdict.worst
  split
  · next hlt => exact ⟨Nat.le_of_lt hlt, Nat.le_refl _⟩
  · next hle => exact ⟨Nat.le_refl _, Nat.le_of_not_lt hle⟩

theorem Verdict.worst_eq (v w : Verdict) : v.worst w = v ∨ v.worst w = w := by
  unfold Verdict.worst
  split
  · exact .inr rfl
  · exact .inl rfl

theorem sumsUp_ofEntry (e : VerdictEntry) : SumsUp (CaseSummary.ofEntry e) [e] where
  category := by simp [CaseSummary.ofEntry]
  total := rfl
  passed := by simp [CaseSummary.ofEntry, List.countP_cons]
  occurs := ⟨e, List.mem_singleton_self e, rfl⟩
  worst := by simp [CaseSummary.ofEntry]

theorem SumsUp.push {row : CaseSummary} {own : List VerdictEntry} (hsums : SumsUp row own)
    {e : VerdictEntry} (hcategory : e.category = row.category) :
    SumsUp (CaseSummary.push row e) (own ++ [e]) where
  category := by
    rw [List.forall_mem_append, List.forall_mem_singleton]
    exact ⟨hsums.category, hcategory⟩
  total := by
    rw [List.length_append, ← hsums.total]
    rfl
  passed := by
    rw [List.countP_append, ← hsums.passed, List.countP_singleton]
    rfl
  occurs := by
    rcases Verdict.worst_eq row.worst e.verdict with hsame | hnew
    · obtain ⟨d, hd, hworst⟩ := hsums.occurs
      exact ⟨d, List.mem_append_left _ hd, hworst.trans hsame.symm⟩
    · exact ⟨e, List.mem_append_right _ (List.mem_singleton_self e), hnew.symm⟩
  worst := by
    have hworst := Verdict.severity_le_worst row.worst e.verdict
    rw [List.forall_mem_append, List.forall_mem_singleton]
    exact ⟨fun d hd => Nat.le_trans (hsums.worst d hd) hworst.1, hworst.2⟩

theorem SumsUp.foldl {row : CaseSummary} {own more : List VerdictEntry} (hsums : SumsUp row own)
    (hcategory : ∀ e ∈ more, e.category = row.category) :
    SumsUp (more.foldl CaseSummary.push row) (own ++ more) := by
  induction more generalizing row own with
  | nil => rwa [List.append_nil]
  | cons e more ih =>
      obtain ⟨hfirst, hrest⟩ := List.forall_mem_cons.1 hcategory
      have hpushed := ih (hsums.push hfirst) hrest
      rwa [List.append_assoc] at hpushed

theorem name_foldl_push (row : CaseSummary) (own : List VerdictEntry) :
    (own.foldl CaseSummary.push row).name = row.name := by
  induction own generalizing row with
  | nil => rfl
  | cons e own ih => exact ih (CaseSummary.push row e)

theorem category_foldl_push (row : CaseSummary) (own : List VerdictEntry) :
    (own.foldl CaseSummary.push row).category = row.category := by
  induction own generalizing row with
  | nil => rfl
  | cons e own ih => exact ih (CaseSummary.push row e)

end Row

/-- Entries in blocks of one case and category each, no two blocks of the same case. -/
inductive Blocks : List VerdictEntry → Prop
  | nil : Blocks []
  | block {e : VerdictEntry} {own rest : List VerdictEntry}
      (hown : ∀ d ∈ own, d.case = e.case ∧ d.category = e.category)
      (hrest : ∀ d ∈ rest, d.case ≠ e.case) (hblocks : Blocks rest) : Blocks (e :: own ++ rest)

section Blocks

theorem RunOrdered.of_append {front back : List VerdictEntry}
    (hordered : RunOrdered (front ++ back)) : RunOrdered back where
  together a d b hsub := hordered.together a d b (hsub.trans (List.sublist_append_right _ _))
  category a ha b hb := hordered.category a (List.mem_append_right _ ha) b
    (List.mem_append_right _ hb)

/-- Behind the block of the first entry its case does not come back. -/
theorem RunOrdered.blocks {entries : List VerdictEntry} (hordered : RunOrdered entries) :
    Blocks entries := by
  induction hlength : entries.length using Nat.strongRecOn generalizing entries with
  | ind n ih =>
      cases entries with
      | nil => exact .nil
      | cons e entries =>
          obtain ⟨own, rest, hentries, hown, hhead⟩ : ∃ own rest, entries = own ++ rest ∧
              (∀ d ∈ own, d.case = e.case) ∧ ∀ d ∈ rest.head?, d.case ≠ e.case := by
            refine ⟨entries.takeWhile (·.case == e.case), entries.dropWhile (·.case == e.case),
              List.takeWhile_append_dropWhile.symm, ?_, ?_⟩
            · intro d hd
              simpa using List.all_eq_true.1 List.all_takeWhile d hd
            · intro d hd
              have hnot := List.head?_dropWhile_not (fun d => d.case == e.case) entries
              rw [hd] at hnot
              simpa using hnot
          subst hentries
          have hcategory : ∀ d ∈ own, d.case = e.case ∧ d.category = e.category := by
            intro d hd
            refine ⟨hown d hd, hordered.category d ?_ e List.mem_cons_self (hown d hd)⟩
            exact List.mem_cons_of_mem e (List.mem_append_left rest hd)
          have hrest : ∀ d ∈ rest, d.case ≠ e.case := by
            intro d hd hcase
            cases rest with
            | nil => simp at hd
            | cons first rest =>
                rcases List.mem_cons.1 hd with rfl | hd
                · exact hhead d rfl hcase
                · have hsub : [e, first, d].Sublist (e :: (own ++ first :: rest)) := by
                    refine .cons_cons e (.trans ?_ (List.sublist_append_right own _))
                    exact .cons_cons first (List.singleton_sublist.2 hd)
                  exact hhead first rfl (hordered.together e first d hsub hcase.symm)
          have hshorter : rest.length < n := by
            rw [← hlength, List.length_cons, List.length_append]
            omega
          have hback : RunOrdered rest := @RunOrdered.of_append (e :: own) rest hordered
          exact .block hcategory hrest (ih _ hshorter hback rfl)

theorem Blocks.runOrdered {entries : List VerdictEntry} (hblocks : Blocks entries) :
    RunOrdered entries := by
  induction hblocks with
  | nil => exact ⟨by simp, by simp⟩
  | @block e own rest hown hrest _ ih =>
      have hblock : ∀ d ∈ e :: own, d.case = e.case ∧ d.category = e.category :=
        List.forall_mem_cons.2 ⟨⟨rfl, rfl⟩, hown⟩
      constructor
      · intro a d b hsub hcase
        obtain ⟨front, back, hsplit, hfront, hback⟩ := List.sublist_append_iff.1 hsub
        cases front with
        | nil =>
            rw [List.nil_append] at hsplit
            exact ih.together a d b (hsplit ▸ hback) hcase
        | cons x front =>
            obtain ⟨rfl, htail⟩ := List.cons.inj hsplit
            have ha := (hblock a (hfront.subset List.mem_cons_self)).1
            -- The last of the three is in the block of the first, and so is what stands between.
            cases front with
            | nil =>
                have hsplit : [d, b] = back := htail
                have hb : b ∈ rest := hback.subset (by simp [← hsplit])
                exact absurd (hcase.symm.trans ha) (hrest b hb)
            | cons y front =>
                obtain ⟨rfl, _⟩ := List.cons.inj htail
                have hd : d ∈ e :: own := hfront.subset (List.mem_cons_of_mem a List.mem_cons_self)
                exact (hblock d hd).1.trans ha.symm
      · intro a ha b hb hcase
        rcases List.mem_append.1 ha with ha | ha <;> rcases List.mem_append.1 hb with hb | hb
        · rw [(hblock a ha).2, (hblock b hb).2]
        · exact absurd (hcase.symm.trans (hblock a ha).1) (hrest b hb)
        · exact absurd (hcase.trans (hblock b hb).1) (hrest a ha)
        · exact ih.category a ha b hb hcase

end Blocks

section Rows

variable {entries : List VerdictEntry}

theorem caseRowsFrom_append {row : CaseSummary} {own rest : List VerdictEntry}
    (hown : ∀ d ∈ own, d.case = row.name) (hrest : ∀ d ∈ rest, d.case ≠ row.name) :
    caseRowsFrom row (own ++ rest) = own.foldl CaseSummary.push row :: caseRows rest := by
  induction own generalizing row with
  | nil =>
      cases rest with
      | nil => rfl
      | cons d rest =>
          rw [List.nil_append, caseRowsFrom, if_neg (hrest d List.mem_cons_self).symm, caseRows]
          rfl
  | cons d own ih =>
      obtain ⟨hfirst, hown⟩ := List.forall_mem_cons.1 hown
      rw [List.cons_append, caseRowsFrom, if_pos hfirst.symm]
      exact @ih (CaseSummary.push row d) hown hrest

/-- The row of a block is followed by those of the other blocks. -/
theorem caseRows_block {e : VerdictEntry} {own rest : List VerdictEntry}
    (hown : ∀ d ∈ own, d.case = e.case ∧ d.category = e.category)
    (hrest : ∀ d ∈ rest, d.case ≠ e.case) : caseRows (e :: own ++ rest) =
      own.foldl CaseSummary.push (CaseSummary.ofEntry e) :: caseRows rest :=
  @caseRowsFrom_append (CaseSummary.ofEntry e) own rest (fun d hd => (hown d hd).1) hrest

theorem map_name_caseRowsFrom {row : CaseSummary} {e : VerdictEntry} (hname : row.name = e.case)
    (rest : List VerdictEntry) :
    (caseRowsFrom row rest).map (·.name) = runNames (e :: rest) := by
  induction rest generalizing row e with
  | nil => rw [caseRowsFrom, runNames, ← hname, List.map_cons, List.map_nil]
  | cons d rest ih =>
      rw [caseRowsFrom, runNames, ← hname]
      by_cases hsame : row.name = d.case
      · rw [if_pos hsame, if_pos hsame]
        exact @ih (CaseSummary.push row d) d hsame
      · rw [if_neg hsame, if_neg hsame, List.map_cons]
        exact congrArg _ (ih rfl)

/-- The rows have the names that are left when immediate repetitions are left out. -/
theorem map_name_caseRows (entries : List VerdictEntry) :
    (caseRows entries).map (·.name) = runNames entries := by
  cases entries with
  | nil => rfl
  | cons e rest => exact map_name_caseRowsFrom rfl rest

theorem runNames_block {e : VerdictEntry} {own rest : List VerdictEntry}
    (hown : ∀ d ∈ own, d.case = e.case ∧ d.category = e.category)
    (hrest : ∀ d ∈ rest, d.case ≠ e.case) :
    runNames (e :: own ++ rest) = e.case :: runNames rest := by
  rw [← map_name_caseRows, caseRows_block hown hrest, List.map_cons, name_foldl_push,
    map_name_caseRows]
  rfl

/-- Without immediate repetitions every name is left once, where it appears first. -/
theorem Blocks.runNames_eq (hblocks : Blocks entries) :
    runNames entries = (entries.map (·.case)).eraseDups := by
  induction hblocks with
  | nil => rfl
  | @block e own rest hown hrest _ ih =>
      have hskipped : (own.map (·.case)).filter (fun name => !name == e.case) = [] := by
        simp only [List.filter_eq_nil_iff, List.forall_mem_map]
        intro d hd
        simp [(hown d hd).1]
      have hkept : (rest.map (·.case)).filter (fun name => !name == e.case) =
          rest.map (·.case) := by
        simp only [List.filter_eq_self, List.forall_mem_map]
        intro d hd
        simpa using hrest d hd
      rw [runNames_block hown hrest, ih, List.cons_append, List.map_cons, List.map_append,
        List.eraseDups_cons, List.filter_append, hskipped, hkept, List.nil_append]

theorem casesOf_block {e : VerdictEntry} {own rest : List VerdictEntry}
    (hown : ∀ d ∈ own, d.case = e.case ∧ d.category = e.category)
    (hrest : ∀ d ∈ rest, d.case ≠ e.case) : casesOf e.case (e :: own ++ rest) = e :: own := by
  have hblock : (e :: own).filter (·.case == e.case) = e :: own := by
    rw [List.filter_eq_self, List.forall_mem_cons]
    exact ⟨beq_self_eq_true _, fun d hd => by simp [(hown d hd).1]⟩
  have hnone : rest.filter (·.case == e.case) = [] := by
    rw [List.filter_eq_nil_iff]
    intro d hd
    simpa using hrest d hd
  rw [casesOf, List.filter_append, hblock, hnone, List.append_nil]

theorem casesOf_behind {e : VerdictEntry} {own rest : List VerdictEntry}
    (hown : ∀ d ∈ own, d.case = e.case ∧ d.category = e.category) {name : String}
    (hname : name ≠ e.case) : casesOf name (e :: own ++ rest) = casesOf name rest := by
  have hnone : (e :: own).filter (·.case == name) = [] := by
    rw [List.filter_eq_nil_iff, List.forall_mem_cons]
    exact ⟨by simpa using hname.symm, fun d hd => by simpa [(hown d hd).1] using hname.symm⟩
  rw [casesOf, List.filter_append, hnone, List.nil_append, casesOf]

theorem Blocks.sumsUp (hblocks : Blocks entries) :
    ∀ row ∈ caseRows entries, SumsUp row (casesOf row.name entries) := by
  induction hblocks with
  | nil => simp [caseRows]
  | @block e own rest hown hrest _ ih =>
      rw [caseRows_block hown hrest, List.forall_mem_cons]
      constructor
      · rw [name_foldl_push]
        change SumsUp _ (casesOf e.case _)
        rw [casesOf_block hown hrest]
        exact (sumsUp_ofEntry e).foldl fun d hd => (hown d hd).2
      · intro row hrow
        have hne : row.name ≠ e.case := by
          intro hname
          obtain ⟨d, hd, hworst⟩ := (ih row hrow).occurs
          have hd := List.mem_filter.1 hd
          exact hrest d hd.1 ((beq_iff_eq.1 hd.2).trans hname)
        rw [casesOf_behind hown hne]
        exact ih row hrow

theorem entriesOf_block {e : VerdictEntry} {own rest : List VerdictEntry}
    (hown : ∀ d ∈ own, d.case = e.case ∧ d.category = e.category) (c : Category) :
    entriesOf c (e :: own ++ rest) =
      if e.category = c then e :: own ++ entriesOf c rest else entriesOf c rest := by
  rw [entriesOf, List.filter_append]
  by_cases hc : e.category = c
  · have hblock : (e :: own).filter (·.category == c) = e :: own := by
      rw [List.filter_eq_self, List.forall_mem_cons]
      exact ⟨by simpa using hc, fun d hd => by simpa [(hown d hd).2] using hc⟩
    rw [if_pos hc, hblock, entriesOf]
  · have hnone : (e :: own).filter (·.category == c) = [] := by
      rw [List.filter_eq_nil_iff, List.forall_mem_cons]
      exact ⟨by simpa using hc, fun d hd => by simpa [(hown d hd).2] using hc⟩
    rw [if_neg hc, hnone, List.nil_append, entriesOf]

/-- The blocks of one category. -/
theorem Blocks.ofCategory (hblocks : Blocks entries) (c : Category) :
    Blocks (entriesOf c entries) := by
  induction hblocks with
  | nil => exact .nil
  | @block e own rest hown hrest _ ih =>
      rw [entriesOf_block hown]
      split
      · refine .block hown ?_ ih
        intro d hd
        exact hrest d (List.mem_of_mem_filter hd)
      · exact ih

/-- A category has as many cases as there are rows of its cases. -/
theorem Blocks.length_runNames (hblocks : Blocks entries) (c : Category) :
    (runNames (entriesOf c entries)).length = (caseRows entries).countP (·.category == c) := by
  induction hblocks with
  | nil => rfl
  | @block e own rest hown hrest _ ih =>
      have hrest' : ∀ d ∈ entriesOf c rest, d.case ≠ e.case :=
        fun d hd => hrest d (List.mem_of_mem_filter hd)
      have hrow : (own.foldl CaseSummary.push (CaseSummary.ofEntry e)).category = e.category :=
        category_foldl_push _ own
      rw [entriesOf_block hown, caseRows_block hown hrest, List.countP_cons, hrow, ← ih]
      by_cases hc : e.category = c
      · rw [if_pos hc, runNames_block hown hrest', List.length_cons, if_pos (by simpa using hc)]
      · rw [if_neg hc, if_neg (by simpa using hc), Nat.add_zero]

theorem Blocks.category_mem (hblocks : Blocks entries) :
    ∀ row ∈ caseRows entries, row.category ∈ occurring entries := by
  intro row hrow
  obtain ⟨e, he, _⟩ := (hblocks.sumsUp row hrow).occurs
  rw [mem_occurring_iff, ← (hblocks.sumsUp row hrow).category e he]
  exact List.mem_map_of_mem (List.mem_of_mem_filter he)

theorem Blocks.sum_cases (hblocks : Blocks entries) :
    ((categoryRows entries).map (·.cases)).sum = (caseRows entries).length := by
  have hrows : (categoryRows entries).map (·.cases) = (occurring entries).map fun c =>
      ((caseRows entries).filter (·.category == c)).countP fun _ => true := by
    rw [categoryRows_eq, List.map_map]
    apply List.map_congr_left
    intro c _
    rw [List.countP_true, ← List.countP_eq_length_filter, ← hblocks.length_runNames c]
    rfl
  have hsum : ((occurring entries).map fun c =>
      ((caseRows entries).filter (·.category == c)).countP fun _ => true).sum =
        (caseRows entries).countP fun _ => true :=
    sum_countP_key (Category.nodup_all.filter _) CaseSummary.category _ hblocks.category_mem
  rw [hrows, hsum, List.countP_true]

end Rows

/-- The rows of a report tell of the cases of its entries: there is one row for each name, in the
order in which the names first appear, and a row sums up the entries of its case.  A category
counts the names that occur in it, and all categories together count the rows. -/
structure TellsCases (r : Report) (entries : List VerdictEntry) : Prop where
  names : r.cases.map (·.name) = (entries.map (·.case)).eraseDups
  rows : ∀ row ∈ r.cases, SumsUp row (casesOf row.name entries)
  categories : ∀ row ∈ r.categories,
    row.cases = ((entriesOf row.category entries).map (·.case)).eraseDups.length
  sum : (r.categories.map (·.cases)).sum = r.cases.length

theorem RunOrdered.tellsCases {entries : List VerdictEntry} (hordered : RunOrdered entries) :
    (summarize entries).TellsCases entries where
  names := (map_name_caseRows entries).trans hordered.blocks.runNames_eq
  rows := hordered.blocks.sumsUp
  categories := by
    intro row hrow
    change row ∈ categoryRows entries at hrow
    rw [categoryRows_eq] at hrow
    obtain ⟨c, _, rfl⟩ := List.mem_map.1 hrow
    exact congrArg List.length (hordered.blocks.ofCategory c).runNames_eq
  sum := hordered.blocks.sum_cases

end Counterpart.Report
