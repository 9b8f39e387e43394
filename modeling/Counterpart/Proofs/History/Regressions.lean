/-
Regressions between recorded runs.  A key is listed if the later run fails on it and is more
severe than the earlier one, where a missing verdict counts as equivalent.  Along a chain of runs
the severity of a listed key must rise to that of the last run in some step, so no regression is
lost in between.
-/
import Counterpart.History.Database
import Counterpart.Proofs.Except
import Counterpart.Proofs.Forall
import Counterpart.Proofs.History.Row
import Mathlib.Data.List.Nodup

namespace Counterpart

/-- The case and the argument set of a regression. -/
def Regression.key (r : Regression) : String × Nat :=
  (r.caseName, r.setIndex)

theorem Verdict.isPass_eq_false_iff (v : Verdict) : v.isPass = false ↔ 2 ≤ v.severity := by
  cases v <;> simp [isPass, severity]

namespace VerdictRow

/-- The case and the argument set of a row. -/
def key (row : VerdictRow) : String × Nat :=
  (row.caseName, Column.toNat row.setIndex)

theorem key_of_toVerdict {row : VerdictRow} {v : StoredVerdict} (hv : row.toVerdict = .ok v) :
    v.key = row.key := by
  obtain ⟨_, _, hv⟩ := bind_eq_ok_iff.1 hv
  obtain ⟨_, _, hv⟩ := bind_eq_ok_iff.1 hv
  obtain ⟨_, _, hv⟩ := bind_eq_ok_iff.1 hv
  cases hv
  rfl

theorem sameKey_of_key_eq {id id' : Int} {e e' : VerdictEntry}
    (hrun : (ofEntry id e).runId = (ofEntry id' e').runId)
    (hkey : (ofEntry id e).key = (ofEntry id' e').key) :
    (ofEntry id e).sameKey (ofEntry id' e') = true := by
  obtain ⟨hcase, hset⟩ := Prod.mk.inj hkey
  have hindex : (ofEntry id e).setIndex = (ofEntry id' e').setIndex := Column.ofNat_eq_iff.2 hset
  simp only [sameKey, hrun, hcase, hindex, beq_self_eq_true, Bool.and_self]

end VerdictRow

namespace History

/-- The histories that writing leads to from a new database on. -/
inductive Reached : History → Prop
  | opened {h : History} (hopen : openDatabase .fresh = .ok h) : Reached h
  | insertRun {h : History} (record : RunRecord) (hreached : Reached h) :
      Reached (h.insertRun record).2
  | insertVerdicts {h : History} (id : Int) (entries : List VerdictEntry)
      (hreached : Reached h) : Reached (h.insertVerdicts id entries)

theorem Reached.recordRun {h : History} (hreached : h.Reached) (record : RunRecord)
    (entries : List VerdictEntry) : (h.recordRun record entries).2.Reached :=
  .insertVerdicts _ entries (.insertRun record hreached)

/-- The rows of the verdicts are rows of entries, and no two have the same key. -/
structure Sound (h : History) : Prop where
  written : ∀ row ∈ h.verdicts, ∃ id e, row = VerdictRow.ofEntry id e
  distinct : h.verdicts.Pairwise fun a b => a.sameKey b = false

theorem Sound.insertVerdict {h : History} (hsound : h.Sound) (id : Int) (e : VerdictEntry) :
    (h.insertVerdict id e).Sound := by
  constructor
  · intro row hrow
    rcases List.mem_append.1 hrow with hrow | hrow
    · exact hsound.written row (List.mem_of_mem_filter hrow)
    · exact ⟨id, e, List.mem_singleton.1 hrow⟩
  · refine List.pairwise_append.2 ⟨hsound.distinct.filter _, List.pairwise_singleton _ _, ?_⟩
    intro row hrow next hnext
    rw [List.mem_singleton.1 hnext]
    have hkept := (List.mem_filter.1 hrow).2
    rwa [Bool.not_eq_true'] at hkept

theorem Sound.insertVerdicts {h : History} (hsound : h.Sound) (id : Int)
    (entries : List VerdictEntry) : (h.insertVerdicts id entries).Sound := by
  induction entries generalizing h with
  | nil => exact hsound
  | cons e rest ih => exact ih (hsound.insertVerdict id e)

theorem Reached.sound {h : History} (hreached : h.Reached) : h.Sound := by
  induction hreached with
  | opened hopen =>
      cases hopen
      exact ⟨nofun, List.Pairwise.nil⟩
  | insertRun record _ ih => exact ⟨ih.written, ih.distinct⟩
  | insertVerdicts id entries _ ih => exact ih.insertVerdicts id entries

section

variable {h : History} {id : Int} {verdicts : List StoredVerdict}

theorem load_eq_ok_iff : h.load id = .ok verdicts ↔ (h.getRun id).isSome = true ∧
    List.Forall₂ (fun row v => row.toVerdict = .ok v) (h.verdicts.filter (·.runId == id))
      verdicts := by
  rw [load, ← mapM_eq_ok_iff]
  cases h.getRun id with
  | none => simp
  | some run => simp

/-- The verdicts of a recorded run are always read. -/
theorem Sound.exists_load (hsound : h.Sound) (hrun : (h.getRun id).isSome = true) :
    ∃ verdicts, h.load id = .ok verdicts := by
  have hread : ∀ row ∈ h.verdicts.filter (·.runId == id), ∃ v, row.toVerdict = .ok v := by
    intro row hrow
    obtain ⟨id', e, rfl⟩ := hsound.written row (List.mem_of_mem_filter hrow)
    exact ⟨_, VerdictRow.toVerdict_ofEntry id' e⟩
  obtain ⟨verdicts, hall⟩ := exists_forall₂ hread
  exact ⟨verdicts, load_eq_ok_iff.2 ⟨hrun, hall⟩⟩

/-- A run has no two verdicts of one key. -/
theorem Sound.nodup_keys (hsound : h.Sound) (hload : h.load id = .ok verdicts) :
    (verdicts.map (·.key)).Nodup := by
  obtain ⟨_, hall⟩ := load_eq_ok_iff.1 hload
  have hkeys : verdicts.map (·.key) = (h.verdicts.filter (·.runId == id)).map (·.key) :=
    map_eq_of_forall₂ hall fun _ _ hv => VerdictRow.key_of_toVerdict hv
  rw [hkeys, List.nodup_iff_pairwise_ne, List.pairwise_map]
  refine (hsound.distinct.filter _).imp_of_mem ?_
  intro a b ha hb hdistinct hkey
  obtain ⟨ha, harun⟩ := List.mem_filter.1 ha
  obtain ⟨hb, hbrun⟩ := List.mem_filter.1 hb
  have hrun : a.runId = b.runId := (beq_iff_eq.1 harun).trans (beq_iff_eq.1 hbrun).symm
  obtain ⟨_, _, rfl⟩ := hsound.written a ha
  obtain ⟨_, _, rfl⟩ := hsound.written b hb
  cases hdistinct.symm.trans (VerdictRow.sameKey_of_key_eq hrun hkey)

end

/-- The verdict of a run on a key: the one it has, or equivalent if it has none. -/
inductive Counts (verdicts : List StoredVerdict) (key : String × Nat) : Verdict → Prop
  | stored {v : StoredVerdict} (hmem : v ∈ verdicts) (hkey : v.key = key) :
      Counts verdicts key v.verdict
  | missing (hnone : ∀ v ∈ verdicts, v.key ≠ key) : Counts verdicts key .equivalent

section

variable {verdicts : List StoredVerdict} {key : String × Nat} {b c : Verdict}

/-- The verdict that is found for a key. -/
def verdictAt (verdicts : List StoredVerdict) (key : String × Nat) : Verdict :=
  ((verdicts.reverse.find? fun o => o.caseName == key.1 && o.setIndex == key.2).map
    (·.verdict)).getD .equivalent

theorem counts_verdictAt (verdicts : List StoredVerdict) (key : String × Nat) :
    Counts verdicts key (verdictAt verdicts key) := by
  unfold verdictAt
  cases hfound : verdicts.reverse.find? fun o => o.caseName == key.1 && o.setIndex == key.2 with
  | none =>
      refine .missing ?_
      rintro v hv rfl
      have hne := List.find?_eq_none.1 hfound v (List.mem_reverse.2 hv)
      simp [StoredVerdict.key] at hne
  | some v =>
      have hkey := List.find?_some hfound
      rw [Bool.and_eq_true, beq_iff_eq, beq_iff_eq] at hkey
      exact .stored (List.mem_reverse.1 (List.mem_of_find?_eq_some hfound)) (Prod.ext hkey.1 hkey.2)

theorem Counts.unique (hkeys : (verdicts.map (·.key)).Nodup) (hb : Counts verdicts key b)
    (hc : Counts verdicts key c) : b = c := by
  cases hb with
  | stored hmem hkey =>
      cases hc with
      | stored hmem' hkey' =>
          rw [List.inj_on_of_nodup_map hkeys hmem hmem' (hkey.trans hkey'.symm)]
      | missing hnone => exact absurd hkey (hnone _ hmem)
  | missing hnone =>
      cases hc with
      | stored hmem hkey => exact absurd hkey (hnone _ hmem)
      | missing => rfl

theorem counts_iff (hkeys : (verdicts.map (·.key)).Nodup) :
    Counts verdicts key b ↔ verdictAt verdicts key = b := by
  constructor
  · intro hb
    exact (counts_verdictAt verdicts key).unique hkeys hb
  · rintro rfl
    exact counts_verdictAt verdicts key

variable {before now : List StoredVerdict} {r : Regression}

theorem regression?_eq_some_iff {v : StoredVerdict} : regression? before v = some r ↔
    v.verdict.isPass = false ∧ (verdictAt before v.key).severity < v.verdict.severity ∧
      r = ⟨v.caseName, v.setIndex, verdictAt before v.key, v.verdict, v.detail⟩ := by
  have hbefore : (verdictFor? before v).getD .equivalent = verdictAt before v.key := rfl
  rw [@eq_comm _ r]
  simp only [regression?, hbefore, Bool.and_eq_true, Bool.not_eq_true', decide_eq_true_eq,
    Option.ite_none_right_eq_some, Option.some.injEq, and_assoc]

/-- Regressions stand in the order of the verdicts they are about. -/
theorem keys_sublist (before now : List StoredVerdict) :
    ((now.filterMap (regression? before)).map (·.key)).Sublist (now.map (·.key)) := by
  induction now with
  | nil => exact List.Sublist.slnil
  | cons v now ih =>
      cases hv : regression? before v with
      | none =>
          rw [List.filterMap_cons_none hv]
          exact ih.cons _
      | some r =>
          obtain ⟨_, _, rfl⟩ := regression?_eq_some_iff.1 hv
          rw [List.filterMap_cons_some hv]
          exact ih.cons_cons _

/-- A key is listed if the later verdict fails and is more severe than the earlier one. -/
theorem mem_keys_iff (hkeys : (now.map (·.key)).Nodup) :
    key ∈ (now.filterMap (regression? before)).map (·.key) ↔
      2 ≤ (verdictAt now key).severity ∧
        (verdictAt before key).severity < (verdictAt now key).severity := by
  constructor
  · intro hkey
    obtain ⟨r, hr, rfl⟩ := List.mem_map.1 hkey
    obtain ⟨v, hv, hregression⟩ := List.mem_filterMap.1 hr
    obtain ⟨hfails, hworse, rfl⟩ := regression?_eq_some_iff.1 hregression
    have hnow : verdictAt now v.key = v.verdict := (counts_iff hkeys).1 (.stored hv rfl)
    change 2 ≤ (verdictAt now v.key).severity ∧
      (verdictAt before v.key).severity < (verdictAt now v.key).severity
    rw [hnow]
    exact ⟨(Verdict.isPass_eq_false_iff _).1 hfails, hworse⟩
  · rintro ⟨hfails, hworse⟩
    generalize hb : verdictAt now key = b at hfails hworse
    cases (counts_iff hkeys).2 hb with
    | stored hmem hkey =>
        subst hkey
        have hregression := regression?_eq_some_iff.2
          ⟨(Verdict.isPass_eq_false_iff _).2 hfails, hworse, rfl⟩
        exact List.mem_map.2 ⟨_, List.mem_filterMap.2 ⟨_, hmem, hregression⟩, rfl⟩
    | missing => exact absurd hworse (Nat.not_lt_zero _)

end

/-- The key is among the regressions from one run to another. -/
def Lists (h : History) (base head : Int) (key : String × Nat) : Prop :=
  ∃ found, h.regressions base head = .ok found ∧ key ∈ found.map (·.key)

/-- How severe a run is on a key. -/
def severityAt (h : History) (id : Int) (key : String × Nat) : Nat :=
  match h.load id with
  | .ok verdicts => (verdictAt verdicts key).severity
  | .error _ => 0

section

variable {h : History} {base head : Int} {key : String × Nat}

theorem regressions_of_load {before now : List StoredVerdict} (hbefore : h.load base = .ok before)
    (hnow : h.load head = .ok now) :
    h.regressions base head = .ok (now.filterMap (regression? before)) :=
  bind_eq_ok_iff.2 ⟨before, hbefore, bind_eq_ok_iff.2 ⟨now, hnow, rfl⟩⟩

theorem Sound.lists_iff (hsound : h.Sound) (hbase : ∃ verdicts, h.load base = .ok verdicts)
    (hhead : ∃ verdicts, h.load head = .ok verdicts) : h.Lists base head key ↔
      2 ≤ h.severityAt head key ∧ h.severityAt base key < h.severityAt head key := by
  obtain ⟨before, hbefore⟩ := hbase
  obtain ⟨now, hnow⟩ := hhead
  rw [severityAt, severityAt, hbefore, hnow, ← mem_keys_iff (hsound.nodup_keys hnow)]
  constructor
  · rintro ⟨found, hfound, hkey⟩
    cases (regressions_of_load hbefore hnow).symm.trans hfound
    exact hkey
  · intro hkey
    exact ⟨_, regressions_of_load hbefore hnow, hkey⟩

theorem Lists.loaded (hlists : h.Lists base head key) :
    (∃ verdicts, h.load base = .ok verdicts) ∧ ∃ verdicts, h.load head = .ok verdicts := by
  obtain ⟨found, hfound, _⟩ := hlists
  obtain ⟨before, hbefore, hfound⟩ := bind_eq_ok_iff.1 hfound
  obtain ⟨now, hnow, _⟩ := bind_eq_ok_iff.1 hfound
  exact ⟨⟨before, hbefore⟩, now, hnow⟩

/-- A severity that ends as a failure above where it began rises to a failure in some step. -/
theorem exists_rise (severity : Nat → Nat) (n : Nat) (hfails : 2 ≤ severity n)
    (hworse : severity 0 < severity n) :
    ∃ i < n, 2 ≤ severity (i + 1) ∧ severity i < severity (i + 1) := by
  induction n with
  | zero => exact absurd hworse (Nat.lt_irrefl _)
  | succ n ih =>
      by_cases hstep : severity n < severity (n + 1)
      · exact ⟨n, Nat.lt_succ_self n, hfails, hstep⟩
      · obtain ⟨i, hi, hrise⟩ := ih (by omega) (by omega)
        exact ⟨i, Nat.lt_succ_of_lt hi, hrise⟩

end

/-- Regressions are exact: between two recorded runs they are, in the stored order of the later
one and once for each key, its verdicts that fail and are more severe than what counts of the
earlier one.  No key is listed in both directions, and a key that is listed from the first run of
a chain to the last is listed in one of its steps. -/
theorem regressions_exact_along_chains {h : History} (hreached : h.Reached) :
    (∀ base head, (h.getRun base).isSome = true → (h.getRun head).isSome = true →
      ∃ before now found, h.load base = .ok before ∧ h.load head = .ok now ∧
        h.regressions base head = .ok found ∧
        (found.map (·.key)).Sublist (now.map (·.key)) ∧ (found.map (·.key)).Nodup ∧
        ∀ r, r ∈ found ↔ ∃ v ∈ now, ∃ b, Counts before v.key b ∧ v.verdict.isPass = false ∧
          b.severity < v.verdict.severity ∧
          r = ⟨v.caseName, v.setIndex, b, v.verdict, v.detail⟩) ∧
    (∀ a b key, ¬ (h.Lists a b key ∧ h.Lists b a key)) ∧
    ∀ (n : Nat) (runs : Nat → Int), (∀ i ≤ n, (h.getRun (runs i)).isSome = true) →
      ∀ key, h.Lists (runs 0) (runs n) key → ∃ i < n, h.Lists (runs i) (runs (i + 1)) key := by
  have hsound := hreached.sound
  refine ⟨?_, ?_, ?_⟩
  · intro base head hbase hhead
    obtain ⟨before, hbefore⟩ := hsound.exists_load hbase
    obtain ⟨now, hnow⟩ := hsound.exists_load hhead
    have horder := keys_sublist before now
    refine ⟨before, now, _, hbefore, hnow, regressions_of_load hbefore hnow, horder,
      horder.nodup (hsound.nodup_keys hnow), ?_⟩
    intro r
    simp only [List.mem_filterMap, regression?_eq_some_iff, counts_iff (hsound.nodup_keys hbefore),
      exists_eq_left']
  · rintro a b key ⟨hforth, hback⟩
    obtain ⟨ha, hb⟩ := hforth.loaded
    have hrise := ((hsound.lists_iff ha hb).1 hforth).2
    have hfall := ((hsound.lists_iff hb ha).1 hback).2
    exact absurd hrise (Nat.lt_asymm hfall)
  · intro n runs hruns key hlists
    have hloaded : ∀ i ≤ n, ∃ verdicts, h.load (runs i) = .ok verdicts :=
      fun i hi => hsound.exists_load (hruns i hi)
    obtain ⟨hfails, hworse⟩ :=
      (hsound.lists_iff (hloaded 0 (Nat.zero_le n)) (hloaded n (Nat.le_refl n))).1 hlists
    obtain ⟨i, hi, hrise⟩ :=
      exists_rise (fun i => h.severityAt (runs i) key) n hfails hworse
    exact ⟨i, hi, (hsound.lists_iff (hloaded i (Nat.le_of_lt hi)) (hloaded (i + 1) hi)).2 hrise⟩

namespace Gap

def record : RunRecord :=
  ⟨"2026-01-01T00:00:00Z", "2026-01-01T00:00:05Z", 0, 4, "corpus", none, none, "", 1, 0⟩

def entry (case : String) (verdict : Verdict) : VerdictEntry :=
  ⟨case, .arithmetic, 0, .random, verdict, none, ""⟩

/-- Three runs; the second one says nothing on the case that crashes in the third one. -/
def recorded : History :=
  let first := (empty.recordRun record [entry "f" .equivalentByFault]).2
  let second := (first.recordRun record [entry "g" .timeout]).2
  (second.recordRun record [entry "g" .timeout, entry "f" .crashMismatch]).2

theorem reached_recorded : recorded.Reached :=
  (((Reached.opened rfl).recordRun _ _).recordRun _ _).recordRun _ _

theorem lists_recorded : recorded.Lists 1 3 ("f", 0) :=
  ⟨[⟨"g", 0, .equivalent, .timeout, none⟩, ⟨"f", 0, .equivalentByFault, .crashMismatch, none⟩], rfl,
    List.mem_cons_of_mem _ List.mem_cons_self⟩

/-- The crash is listed from the first run to the last, so it is in one of the two steps. -/
theorem regressions_exact_along_chains_gap :
    recorded.Lists 1 3 ("f", 0) ∧ ¬ recorded.Lists 3 1 ("f", 0) ∧
      ∃ i : Nat, i < 2 ∧ recorded.Lists (1 + i) (2 + i) ("f", 0) := by
  obtain ⟨_, hasymm, hchain⟩ := regressions_exact_along_chains reached_recorded
  have hruns : ∀ i : Nat, i ≤ 2 → (recorded.getRun (1 + i)).isSome = true := by
    decide
  obtain ⟨i, hi, hstep⟩ := hchain 2 (fun i => 1 + i) hruns ("f", 0) lists_recorded
  have hnext : 1 + ((i + 1 : Nat) : Int) = 2 + i := by
    omega
  exact ⟨lists_recorded, fun hback => hasymm 1 3 ("f", 0) ⟨lists_recorded, hback⟩, i, hi,
    hnext ▸ hstep⟩

end Gap

end History

end Counterpart
