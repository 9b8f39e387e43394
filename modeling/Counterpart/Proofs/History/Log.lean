/-
The history of runs as a log.  Recording adds a run at the end under a greater number and touches
nothing that was recorded before; of the entries of a run it keeps the last one of each key.
-/
import Counterpart.History.Database
import Counterpart.Proofs.Harness.Keys
import Counterpart.Proofs.Harness.Misbehaviour
import Mathlib.Data.List.Induction

namespace Counterpart

/-- What is recorded at once: a run with its entries. -/
structure Recording where
  record : RunRecord
  entries : List VerdictEntry

/-- The numbers of a recording fit sixty-four bits. -/
structure Recording.Fits (call : Recording) : Prop where
  record : call.record.Fits
  entries : ∀ e ∈ call.entries, e.setIndex < 2 ^ 64

/-- The entries with no later one of the same key. -/
def lastEntries : List VerdictEntry → List VerdictEntry
  | [] => []
  | e :: rest => if e.key ∈ rest.map (·.key) then lastEntries rest else e :: lastEntries rest

theorem mem_of_mem_lastEntries {entries : List VerdictEntry} {e : VerdictEntry}
    (he : e ∈ lastEntries entries) : e ∈ entries := by
  induction entries with
  | nil => exact he
  | cons head rest ih =>
      by_cases hlater : head.key ∈ rest.map (·.key)
      · rw [lastEntries, if_pos hlater] at he
        exact List.mem_cons_of_mem head (ih he)
      · rw [lastEntries, if_neg hlater] at he
        rcases List.mem_cons.1 he with rfl | he
        · exact List.mem_cons_self
        · exact List.mem_cons_of_mem head (ih he)

/-- One more entry takes the place of the one with its key, but at the end. -/
theorem lastEntries_concat (entries : List VerdictEntry) (e : VerdictEntry) :
    lastEntries (entries ++ [e]) =
      (lastEntries entries).filter (fun other => other.key ≠ e.key) ++ [e] := by
  induction entries with
  | nil => rfl
  | cons head rest ih =>
      by_cases hlater : head.key ∈ rest.map (·.key)
      · simp [lastEntries, hlater, ih]
      · by_cases heq : head.key = e.key
        · rw [heq] at hlater
          simp [lastEntries, hlater, heq, ih]
        · simp [lastEntries, hlater, heq, ih]

/-- Entries of different keys are all kept. -/
theorem lastEntries_of_nodup {entries : List VerdictEntry} (hkeys : (entries.map (·.key)).Nodup) :
    lastEntries entries = entries := by
  induction entries with
  | nil => rfl
  | cons head rest ih =>
      rw [List.map_cons, List.nodup_cons] at hkeys
      rw [lastEntries, if_neg hkeys.1, ih hkeys.2]

namespace History

/-- Records one run after another and tells their numbers. -/
def recordAll : History → List Recording → List Int × History
  | h, [] => ([], h)
  | h, call :: rest =>
      let (id, h) := h.recordRun call.record call.entries
      let (ids, h) := h.recordAll rest
      (id :: ids, h)

/-- The history keeps a log of numbered recordings: its rows are those of the log in the same
order, and the numbers ascend to the last one given. -/
structure Keeps (h : History) (log : List (Int × Recording)) : Prop where
  runs : h.runs = log.map fun x => RunRow.ofRecord x.1 x.2.record
  verdicts : h.verdicts =
    log.flatMap fun x => (lastEntries x.2.entries).map (VerdictRow.ofEntry x.1)
  ascending : (log.map Prod.fst).Pairwise (· < ·)
  bounded : ∀ x ∈ log, x.1 ≤ h.lastId

section

variable {h : History} {log : List (Int × Recording)} {id : Int} {call : Recording}

theorem keeps_empty : empty.Keeps [] :=
  ⟨rfl, rfl, List.Pairwise.nil, nofun⟩

/-- The verdicts of a new run are its last entries, behind all others. -/
theorem insertVerdicts_eq {entries : List VerdictEntry} (hnew : ∀ row ∈ h.verdicts, row.runId ≠ id)
    (hfits : ∀ e ∈ entries, e.setIndex < 2 ^ 64) :
    h.insertVerdicts id entries =
      { h with verdicts := h.verdicts ++ (lastEntries entries).map (VerdictRow.ofEntry id) } := by
  -- A row takes the place of one in front of it, so the induction is on the last entry.
  induction entries using List.reverseRecOn with
  | nil => simp [insertVerdicts, lastEntries]
  | append_singleton entries e ih =>
      have hothers : ∀ other ∈ entries, other.setIndex < 2 ^ 64 :=
        fun other hother => hfits other (List.mem_append_left _ hother)
      have hlast : e.setIndex < 2 ^ 64 := hfits e (List.mem_append_right _ List.mem_cons_self)
      have hold : h.verdicts.filter (fun row => !row.sameKey (VerdictRow.ofEntry id e)) =
          h.verdicts := by
        rw [List.filter_eq_self]
        intro row hrow
        rw [VerdictRow.sameKey_of_runId_ne (hnew row hrow), Bool.not_false]
      have hown := VerdictRow.filter_ofEntry id
        (fun other hother => hothers other (mem_of_mem_lastEntries hother)) hlast
      rw [insertVerdicts, List.foldl_concat, ← insertVerdicts, ih hothers, insertVerdict,
        lastEntries_concat, List.map_append, List.filter_append, hold, hown, List.append_assoc]
      rfl

/-- Recording a run adds it to the log under the next number. -/
theorem Keeps.recordRun (hkeeps : h.Keeps log) (hfits : call.Fits) :
    (h.recordRun call.record call.entries).1 = h.lastId + 1 ∧
      (h.recordRun call.record call.entries).2.Keeps (log ++ [(h.lastId + 1, call)]) := by
  have hnew : ∀ row ∈ (h.insertRun call.record).2.verdicts, row.runId ≠ h.lastId + 1 := by
    intro row hrow
    rw [insertRun, hkeeps.verdicts] at hrow
    obtain ⟨x, hx, hrow⟩ := List.mem_flatMap.1 hrow
    obtain ⟨e, _, rfl⟩ := List.mem_map.1 hrow
    have hbound := hkeeps.bounded x hx
    exact Int.ne_of_lt (Int.lt_add_one_of_le hbound)
  refine ⟨rfl, ?_⟩
  have hstored := insertVerdicts_eq hnew hfits.entries
  have hrecorded : (h.recordRun call.record call.entries).2 =
      (h.insertRun call.record).2.insertVerdicts (h.lastId + 1) call.entries := rfl
  rw [hrecorded, hstored]
  constructor
  · rw [List.map_append, ← hkeeps.runs]
    rfl
  · rw [List.flatMap_append, ← hkeeps.verdicts, List.flatMap_singleton]
    rfl
  · rw [List.map_append, List.pairwise_append]
    refine ⟨hkeeps.ascending, List.pairwise_singleton _ _, ?_⟩
    intro id hid next hnext
    obtain ⟨x, hx, rfl⟩ := List.mem_map.1 hid
    have hbound := hkeeps.bounded x hx
    rw [List.mem_singleton.1 hnext]
    exact Int.lt_add_one_of_le hbound
  · intro x hx
    rcases List.mem_append.1 hx with hx | hx
    · exact Int.le_trans (hkeeps.bounded x hx) (Int.le_of_lt (Int.lt_succ h.lastId))
    · rw [List.mem_singleton.1 hx]
      exact Int.le_refl _

/-- Recording runs one after another adds them all, in their order. -/
theorem Keeps.recordAll {calls : List Recording} (hkeeps : h.Keeps log)
    (hfits : ∀ call ∈ calls, call.Fits) :
    (h.recordAll calls).1.length = calls.length ∧
      (h.recordAll calls).2.Keeps (log ++ (h.recordAll calls).1.zip calls) := by
  induction calls generalizing h log with
  | nil => exact ⟨rfl, (List.append_nil log).symm ▸ hkeeps⟩
  | cons call rest ih =>
      rw [List.forall_mem_cons] at hfits
      obtain ⟨hid, hnext⟩ := hkeeps.recordRun hfits.1
      obtain ⟨hlength, hrest⟩ := ih hnext hfits.2
      rw [← hid, List.append_assoc] at hrest
      exact ⟨congrArg (· + 1) hlength, hrest⟩

/-- What stands in the log around one of its recordings has other numbers. -/
theorem Keeps.exists_split (hkeeps : h.Keeps log) (hmem : (id, call) ∈ log) :
    ∃ front back, log = front ++ (id, call) :: back ∧ (∀ x ∈ front, x.1 ≠ id) ∧
      ∀ x ∈ back, x.1 ≠ id := by
  obtain ⟨front, back, rfl⟩ := List.append_of_mem hmem
  have hascending := hkeeps.ascending
  rw [List.map_append, List.map_cons, List.pairwise_append, List.pairwise_cons] at hascending
  refine ⟨front, back, rfl, ?_, ?_⟩
  · intro x hx
    exact Int.ne_of_lt (hascending.2.2 x.1 (List.mem_map_of_mem hx) id List.mem_cons_self)
  · intro x hx
    exact Int.ne_of_gt (hascending.2.1.1 x.1 (List.mem_map_of_mem hx))

theorem Keeps.listRuns (hkeeps : h.Keeps log) (hfits : ∀ x ∈ log, x.2.Fits) :
    h.listRuns = log.map fun x => ⟨x.1, x.2.record⟩ := by
  rw [History.listRuns, hkeeps.runs, List.map_map]
  apply List.map_congr_left
  intro x hx
  exact RunRow.toRun_ofRecord (hfits x hx).record x.1

/-- The last numbers, newest first. -/
theorem Keeps.latest (hkeeps : h.Keeps log) {limit : Nat} (hlimit : limit < 2 ^ 64)
    (hlength : 2 ^ 63 ≤ limit → log.length ≤ limit) :
    h.latest limit = (log.map Prod.fst).reverse.take limit := by
  have hids : h.runs.map (·.id) = log.map Prod.fst := by
    rw [hkeeps.runs, List.map_map]
    rfl
  rw [History.latest, hids]
  by_cases hsmall : limit < 2 ^ 63
  · rw [Column.ofNat_of_lt hsmall]
    simp
  · -- Such a limit is negative in its column, so all numbers are told.
    have hall : log.length ≤ limit := hlength (Nat.le_of_not_lt hsmall)
    simp only [Column.ofNat_neg (Nat.le_of_not_lt hsmall) hlimit, if_true]
    rw [List.take_of_length_le]
    rwa [List.length_reverse, List.length_map]

theorem Keeps.getRun_of_mem (hkeeps : h.Keeps log) (hmem : (id, call) ∈ log) (hfits : call.Fits) :
    h.getRun id = some ⟨id, call.record⟩ := by
  obtain ⟨front, back, rfl, hfront, _⟩ := hkeeps.exists_split hmem
  have hnone : (front.map fun x => RunRow.ofRecord x.1 x.2.record).find? (·.id == id) = none := by
    rw [List.find?_map, Option.map_eq_none_iff, List.find?_eq_none]
    intro x hx heq
    exact hfront x hx (beq_iff_eq.1 heq)
  have hsome : ((RunRow.ofRecord id call.record).id == id) = true := beq_iff_eq.2 rfl
  rw [getRun, hkeeps.runs, List.map_append, List.find?_append, hnone, Option.none_or, List.map_cons,
    List.find?_cons, hsome, Option.map_some, RunRow.toRun_ofRecord hfits.record]

theorem Keeps.getRun_of_notMem (hkeeps : h.Keeps log) (hid : id ∉ log.map Prod.fst) :
    h.getRun id = none := by
  rw [getRun, hkeeps.runs, Option.map_eq_none_iff, List.find?_eq_none]
  intro row hrow heq
  obtain ⟨x, hx, rfl⟩ := List.mem_map.1 hrow
  exact hid (List.mem_map.2 ⟨x, hx, beq_iff_eq.1 heq⟩)

/-- The rows of a run are those of its own recording. -/
theorem Keeps.filter_verdicts (hkeeps : h.Keeps log) (hmem : (id, call) ∈ log) :
    h.verdicts.filter (·.runId == id) = (lastEntries call.entries).map (VerdictRow.ofEntry id) := by
  obtain ⟨front, back, rfl, hfront, hback⟩ := hkeeps.exists_split hmem
  have hothers : ∀ part : List (Int × Recording), (∀ x ∈ part, x.1 ≠ id) →
      (part.flatMap fun x => (lastEntries x.2.entries).map (VerdictRow.ofEntry x.1)).filter
        (·.runId == id) = [] := by
    intro part hpart
    rw [List.filter_eq_nil_iff]
    intro row hrow heq
    obtain ⟨x, hx, hrow⟩ := List.mem_flatMap.1 hrow
    obtain ⟨e, _, rfl⟩ := List.mem_map.1 hrow
    exact hpart x hx (beq_iff_eq.1 heq)
  rw [hkeeps.verdicts, List.flatMap_append, List.filter_append, hothers front hfront,
    List.flatMap_cons, List.filter_append, hothers back hback, List.nil_append, List.append_nil,
    List.filter_eq_self]
  intro row hrow
  obtain ⟨e, _, rfl⟩ := List.mem_map.1 hrow
  exact beq_iff_eq.2 rfl

theorem Keeps.load_of_mem (hkeeps : h.Keeps log) (hmem : (id, call) ∈ log) (hfits : call.Fits) :
    h.load id = .ok ((lastEntries call.entries).map .ofEntry) := by
  have hfound : (h.getRun id).isNone = false := by
    rw [hkeeps.getRun_of_mem hmem hfits]
    rfl
  rw [load, hfound, if_neg Bool.false_ne_true, hkeeps.filter_verdicts hmem, mapM_eq_ok_iff,
    List.forall₂_map_left_iff, List.forall₂_map_right_iff, List.forall₂_same]
  intro e he
  exact VerdictRow.toVerdict_ofEntry_of_lt id (hfits.entries e (mem_of_mem_lastEntries he))

theorem Keeps.load_of_notMem (hkeeps : h.Keeps log) (hid : id ∉ log.map Prod.fst) :
    h.load id = .error (.unknownRun id) := by
  rw [load, hkeeps.getRun_of_notMem hid]
  rfl

/-- Exactly the runs of the log are found. -/
theorem Keeps.isSome_getRun_iff (hkeeps : h.Keeps log) (hfits : ∀ x ∈ log, x.2.Fits) :
    (h.getRun id).isSome = true ↔ id ∈ log.map Prod.fst := by
  by_cases hid : id ∈ log.map Prod.fst
  · obtain ⟨⟨_, call⟩, hmem, rfl⟩ := List.mem_map.1 hid
    simp [hkeeps.getRun_of_mem hmem (hfits _ hmem), hid]
  · simp [hkeeps.getRun_of_notMem hid, hid]

/-- Exactly the runs of the log are loaded. -/
theorem Keeps.exists_load_iff (hkeeps : h.Keeps log) (hfits : ∀ x ∈ log, x.2.Fits) :
    (∃ verdicts, h.load id = .ok verdicts) ↔ id ∈ log.map Prod.fst := by
  by_cases hid : id ∈ log.map Prod.fst
  · obtain ⟨⟨_, call⟩, hmem, rfl⟩ := List.mem_map.1 hid
    simp [hkeeps.load_of_mem hmem (hfits _ hmem), hid]
  · simp [hkeeps.load_of_notMem hid, hid]

end

/-- From a new database on, recorded runs are an append-only log.  Their numbers ascend; the runs
are listed in the order of the calls with every field as it was; the latest are the last ones;
exactly the numbers given are found; and each run has the last entries of each key, in order and
without the line of the arguments, whatever is recorded later.  No entry of a run over a registry
is lost. -/
theorem recordAll_refines_log (calls : List Recording) (hfits : ∀ call ∈ calls, call.Fits) :
    ∃ h₀, openDatabase .fresh = .ok h₀ ∧
      let ids := (h₀.recordAll calls).1
      let h := (h₀.recordAll calls).2
      ids.length = calls.length ∧ ids.Pairwise (· < ·) ∧
      h.listRuns = (ids.zip calls).map (fun x => ⟨x.1, x.2.record⟩) ∧
      (∀ limit < 2 ^ 64, (2 ^ 63 ≤ limit → calls.length ≤ limit) →
        h.latest limit = ids.reverse.take limit) ∧
      (∀ id, (h.getRun id).isSome = true ↔ id ∈ ids) ∧
      (∀ id, (∃ verdicts, h.load id = .ok verdicts) ↔ id ∈ ids) ∧
      (∀ x ∈ ids.zip calls, h.getRun x.1 = some ⟨x.1, x.2.record⟩ ∧
        h.load x.1 = .ok ((lastEntries x.2.entries).map .ofEntry) ∧
        ((x.2.entries.map (·.key)).Nodup → h.load x.1 = .ok (x.2.entries.map .ofEntry))) ∧
      ∀ (registry : Registry) (entries : List VerdictEntry), registry.Built →
        Harness.RunOver registry entries → (entries.map (·.key)).Nodup := by
  refine ⟨empty, rfl, ?_⟩
  intro ids h
  obtain ⟨hlength, hkeeps⟩ := keeps_empty.recordAll hfits
  rw [List.nil_append] at hkeeps
  have hids : (ids.zip calls).map Prod.fst = ids := List.map_fst_zip hlength.le
  have hmemFits : ∀ x ∈ ids.zip calls, x.2.Fits := fun x hx => hfits x.2 (List.of_mem_zip hx).2
  have hlogLength : (ids.zip calls).length = calls.length := by
    rw [List.length_zip, hlength, Nat.min_self]
  refine ⟨hlength, hids ▸ hkeeps.ascending, hkeeps.listRuns hmemFits, ?_, ?_, ?_, ?_, ?_⟩
  · intro limit hlimit hlarge
    rw [hkeeps.latest hlimit (hlogLength ▸ hlarge), hids]
  · intro id
    rw [hkeeps.isSome_getRun_iff hmemFits, hids]
  · intro id
    rw [hkeeps.exists_load_iff hmemFits, hids]
  · rintro ⟨id, call⟩ hmem
    have hload := hkeeps.load_of_mem hmem (hmemFits _ hmem)
    refine ⟨hkeeps.getRun_of_mem hmem (hmemFits _ hmem), hload, ?_⟩
    intro hkeys
    rwa [lastEntries_of_nodup hkeys] at hload
  · intro registry entries hbuilt hover
    exact hover.nodup_keys hbuilt

namespace Repeated

def record (seed : Nat) : RunRecord :=
  ⟨"2026-01-01T00:00:00Z", "2026-01-01T00:00:05Z", seed, 4, "corpus", some "decompiled", none, "",
    3, 2⟩

def entry (case : String) (setIndex : Nat) (verdict : Verdict) : VerdictEntry :=
  ⟨case, .arithmetic, setIndex, .random, verdict, none, ""⟩

/-- A run with the greatest seed that has two entries of one key, and a later run with the same
key. -/
def calls : List Recording :=
  [⟨record (2 ^ 64 - 1), [entry "f" 0 .equivalent, entry "g" 0 .equivalent,
      entry "f" 0 .valueMismatch]⟩,
    ⟨record 0, [entry "f" 0 .timeout]⟩]

theorem fits_calls : ∀ call ∈ calls, call.Fits := by
  have hrecord : ∀ seed < 2 ^ 64, (record seed).Fits := by
    intro seed hseed
    exact ⟨hseed, by simp [record], by simp [record], by simp [record]⟩
  intro call hcall
  simp only [calls, List.mem_cons, List.not_mem_nil, or_false] at hcall
  rcases hcall with rfl | rfl
  · exact ⟨hrecord _ (by decide), by decide⟩
  · exact ⟨hrecord _ (by decide), by decide⟩

/-- A case of one number. -/
def case (name : String) : ReferenceCase :=
  ⟨⟨name, [⟨"n", .scalar (.int .w4 true), none, false, []⟩], .void⟩, .arithmetic, [], name, []⟩

def registry : Registry := ⟨[case "f", case "g"], [("g", 1), ("f", 0)]⟩

theorem built_registry : registry.Built := by
  have hfirst : Registry.empty.register (case "f") = .ok ⟨[case "f"], [("f", 0)]⟩ := rfl
  have hsecond : Registry.register ⟨[case "f"], [("f", 0)]⟩ (case "g") = .ok registry := rfl
  exact .register (.register .empty hfirst) hsecond

def pairs : List CasePair := CasePair.selfCheck registry "corpus"

def config : Config := .default ⟨fun _ => none, 2⟩

def prepared : Rehearsal := .start "cc" (.ok "cc 1.0") "w" .plain fun _ => .plain

theorem orderly_prepared : prepared.Orderly DriverReport.Quiet :=
  Rehearsal.orderly_start Rehearsal.quiet_nil fun _ =>
    Rehearsal.permitted_plain Rehearsal.quiet_nil

theorem exists_generated : ∃ sets sets', sets.length = 2 ∧ sets'.length = 2 ∧
    Harness.generateAll config pairs 0 2 = .ok [sets, sets'] :=
  ⟨_, _, rfl, rfl, rfl⟩

/-- Both cases run on two argument sets each. -/
theorem exists_runOver : ∃ entries, Harness.RunOver registry entries ∧ entries.length = 4 := by
  have hvalid : ∀ pair ∈ pairs, pair.case.signature.validate = .ok () := by
    intro pair hpair
    obtain ⟨case, hcase, rfl⟩ := List.mem_map.1 hpair
    exact built_registry.consistent.valid case hcase
  obtain ⟨sets, sets', hlength, hlength', hgenerated⟩ := exists_generated
  obtain ⟨version, blocks, t, hrun, hcomes⟩ :=
    Harness.exists_gives_summary (Rehearsal.dependable orderly_prepared) hvalid hgenerated rfl
  refine ⟨blocks.flatten, .summary (.itself "corpus") hrun, ?_⟩
  obtain _ | @⟨_, first, _, _, hfirst, hcomes⟩ := hcomes
  obtain _ | @⟨_, second, _, _, hsecond, hcomes⟩ := hcomes
  cases hcomes
  have hone := congrArg List.length (Harness.ComesTo.keys hfirst)
  have htwo := congrArg List.length (Harness.ComesTo.keys hsecond)
  simp only [List.length_map] at hone htwo
  simp [hone, htwo, hlength, hlength']

/-- The first run keeps its seed, and the later one of its two entries behind the entry in
between.  A run over a registry of two cases has no such entries. -/
theorem recordAll_refines_log_repeated : (∃ h₀ first second,
    openDatabase .fresh = .ok h₀ ∧ (h₀.recordAll calls).1 = [first, second] ∧ first < second ∧
      (h₀.recordAll calls).2.getRun first = some ⟨first, record (2 ^ 64 - 1)⟩ ∧
      (h₀.recordAll calls).2.load first = .ok
        ([entry "g" 0 .equivalent, entry "f" 0 .valueMismatch].map .ofEntry)) ∧
    ∃ entries, Harness.RunOver registry entries ∧ entries.length = 4 ∧
      (entries.map (·.key)).Nodup := by
  obtain ⟨h₀, hopen, hlength, hascending, _, _, _, _, hruns, hdistinct⟩ :=
    recordAll_refines_log calls fits_calls
  obtain ⟨entries, hover, hcount⟩ := exists_runOver
  obtain ⟨first, second, hids⟩ := List.length_eq_two.1 hlength
  rw [hids, List.pairwise_pair] at hascending
  rw [hids] at hruns
  obtain ⟨hrun, hload, _⟩ := hruns _ List.mem_cons_self
  exact ⟨⟨h₀, first, second, hopen, hids, hascending, hrun, hload⟩, entries, hover, hcount,
    hdistinct registry entries built_registry hover⟩

end Repeated

end History

end Counterpart
