/-
What comes back from the rows of a history.  A column keeps every number of sixty-four bits, and
the labels of an entry are always known again.
-/
import Counterpart.History.Table

namespace Counterpart

namespace Column

theorem toNat_ofNat_eq_mod (n : Nat) : toNat (ofNat n) = n % 2 ^ 64 := by
  rw [toNat, ofNat, BitVec.ofInt_toInt, BitVec.toNat_ofNat]

/-- A column keeps every number of sixty-four bits. -/
theorem toNat_ofNat {n : Nat} (hn : n < 2 ^ 64) : toNat (ofNat n) = n := by
  rw [toNat_ofNat_eq_mod, Nat.mod_eq_of_lt hn]

/-- Two columns that are read alike hold the same. -/
theorem ofNat_eq_iff {m n : Nat} : ofNat m = ofNat n ↔ toNat (ofNat m) = toNat (ofNat n) := by
  rw [toNat_ofNat_eq_mod, toNat_ofNat_eq_mod, ofNat, ofNat, BitVec.toInt_inj, BitVec.toNat_inj.symm,
    BitVec.toNat_ofNat, BitVec.toNat_ofNat]

theorem ofNat_of_lt {n : Nat} (hn : n < 2 ^ 63) : ofNat n = n := by
  rw [ofNat, BitVec.toInt_eq_toNat_cond, BitVec.toNat_ofNat]
  omega

theorem ofNat_neg {n : Nat} (hlow : 2 ^ 63 ≤ n) (hhigh : n < 2 ^ 64) : ofNat n < 0 := by
  rw [ofNat, BitVec.toInt_eq_toNat_cond, BitVec.toNat_ofNat]
  omega

end Column

/-- The numbers of a record fit sixty-four bits. -/
structure RunRecord.Fits (record : RunRecord) : Prop where
  seed : record.seed < 2 ^ 64
  count : record.count < 2 ^ 64
  total : record.total < 2 ^ 64
  passed : record.passed < 2 ^ 64

/-- A record comes back from its row unchanged. -/
theorem RunRow.toRun_ofRecord {record : RunRecord} (hfits : record.Fits) (id : Int) :
    (ofRecord id record).toRun = ⟨id, record⟩ := by
  rw [ofRecord, toRun, Column.toNat_ofNat hfits.seed, Column.toNat_ofNat hfits.count,
    Column.toNat_ofNat hfits.total, Column.toNat_ofNat hfits.passed]

theorem Category.ofLabel?_label (c : Category) : ofLabel? c.label = some c := by
  cases c <;> decide

theorem Provenance.ofLabel?_label (p : Provenance) : ofLabel? p.label = some p := by
  cases p <;> decide

theorem Verdict.ofLabel?_label (v : Verdict) : ofLabel? v.label = some v := by
  cases v <;> decide

/-- The case and the argument set of an entry. -/
def VerdictEntry.key (e : VerdictEntry) : String × Nat :=
  (e.case, e.setIndex)

/-- The case and the argument set of a verdict. -/
def StoredVerdict.key (v : StoredVerdict) : String × Nat :=
  (v.caseName, v.setIndex)

/-- What is kept of an entry: all but the line of its arguments. -/
def StoredVerdict.ofEntry (e : VerdictEntry) : StoredVerdict :=
  ⟨e.case, e.category, e.setIndex, e.provenance, e.verdict, e.detail⟩

namespace VerdictRow

/-- The row of an entry is always read. -/
theorem toVerdict_ofEntry (id : Int) (e : VerdictEntry) : (ofEntry id e).toVerdict =
    .ok { StoredVerdict.ofEntry e with setIndex := Column.toNat (Column.ofNat e.setIndex) } := by
  simp only [toVerdict, ofEntry, known, Category.ofLabel?_label, Provenance.ofLabel?_label,
    Verdict.ofLabel?_label]
  rfl

theorem toVerdict_ofEntry_of_lt (id : Int) {e : VerdictEntry} (he : e.setIndex < 2 ^ 64) :
    (ofEntry id e).toVerdict = .ok (StoredVerdict.ofEntry e) := by
  rw [toVerdict_ofEntry, Column.toNat_ofNat he]
  rfl

theorem sameKey_ofEntry_iff (id : Int) {a b : VerdictEntry} (ha : a.setIndex < 2 ^ 64)
    (hb : b.setIndex < 2 ^ 64) : (ofEntry id a).sameKey (ofEntry id b) = true ↔ a.key = b.key := by
  simp only [sameKey, ofEntry, VerdictEntry.key, Bool.and_eq_true, beq_iff_eq, true_and,
    Prod.mk.injEq, Column.ofNat_eq_iff, Column.toNat_ofNat ha, Column.toNat_ofNat hb]

/-- The rows of a run that another entry of the run does not replace. -/
theorem filter_ofEntry (id : Int) {entries : List VerdictEntry} {e : VerdictEntry}
    (hentries : ∀ other ∈ entries, other.setIndex < 2 ^ 64) (he : e.setIndex < 2 ^ 64) :
    (entries.map (ofEntry id)).filter (fun row => !row.sameKey (ofEntry id e)) =
      (entries.filter (·.key ≠ e.key)).map (ofEntry id) := by
  rw [List.filter_map]
  congr 1
  apply List.filter_congr
  intro other hother
  rw [Function.comp_apply, Bool.eq_iff_iff, Bool.not_eq_true', ← Bool.not_eq_true,
    sameKey_ofEntry_iff id (hentries other hother) he, decide_eq_true_eq]

theorem sameKey_of_runId_ne {a b : VerdictRow} (hne : a.runId ≠ b.runId) : a.sameKey b = false := by
  simp [sameKey, hne]

end VerdictRow

end Counterpart
