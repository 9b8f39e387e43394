/-
The baseline of a comparison for which none is given.  It is the newest recorded run other than
the head.  That is an earlier run only where the head is the newest run of all; the baseline of any
other head is a later run, against which what got better since reads as a regression.
-/
import Counterpart.Proofs.History.Opening
import Counterpart.Proofs.History.Regressions

namespace Counterpart

/-- A number is the greatest among those of a list that are not the head. -/
structure NewestOther (ids : List Int) (head base : Int) : Prop where
  recorded : base ∈ ids
  other : base ≠ head
  newest : ∀ id ∈ ids, id ≠ head → id ≤ base

section

variable {ids : List Int} {head base other : Int}

theorem NewestOther.unique (hbase : NewestOther ids head base)
    (hother : NewestOther ids head other) : base = other := by
  have hle := hother.newest base hbase.recorded hbase.other
  have hge := hbase.newest other hother.recorded hother.other
  exact Int.le_antisymm hle hge

/-- The newest other run is earlier than the head exactly if the head is the newest of all. -/
theorem NewestOther.lt_iff (hbase : NewestOther ids head base) :
    base < head ↔ ∀ id ∈ ids, id ≤ head := by
  constructor
  · intro hlt id hid
    by_cases hsame : id = head
    · exact Int.le_of_eq hsame
    · exact Int.le_trans (hbase.newest id hid hsame) (Int.le_of_lt hlt)
  · intro hall
    exact Int.lt_iff_le_and_ne.2 ⟨hall base hbase.recorded, hbase.other⟩

/-- Of different numbers, the first two are enough to find one that is not the head. -/
theorem find?_take_two (hdistinct : ids.Nodup) :
    (ids.take 2).find? (· != head) = ids.find? (· != head) := by
  obtain _ | ⟨first, _ | ⟨second, rest⟩⟩ := ids
  · rfl
  · rfl
  · by_cases hfirst : first = head
    · have hsecond : second ≠ head := by
        rintro rfl
        exact (List.nodup_cons.1 hdistinct).1 (hfirst ▸ List.mem_cons_self)
      simp [hfirst, hsecond]
    · simp [hfirst]

/-- The first of falling numbers that a test accepts is the greatest of them. -/
theorem le_of_find? (hfalling : ids.Pairwise (· > ·)) {accepts : Int → Bool} {found : Int}
    (hfound : ids.find? accepts = some found) : ∀ id ∈ ids, accepts id = true → id ≤ found := by
  induction ids with
  | nil => cases hfound
  | cons first rest ih =>
      obtain ⟨hfirst, hrest⟩ := List.pairwise_cons.1 hfalling
      intro id hid haccepted
      by_cases hhead : accepts first = true
      · rw [List.find?_cons_of_pos hhead] at hfound
        cases hfound
        rcases List.mem_cons.1 hid with rfl | hid
        · exact Int.le_refl _
        · exact Int.le_of_lt (hfirst id hid)
      · rw [List.find?_cons_of_neg hhead] at hfound
        rcases List.mem_cons.1 hid with rfl | hid
        · exact absurd haccepted hhead
        · exact ih hrest hfound id hid haccepted

end

/-- A database in one of the layouts, with its runs in the order of their numbers. -/
structure Database.Orderly (d : Database) : Prop where
  laidOut : d.LaidOut
  ascending : (d.runs.map (·.id)).Pairwise (· < ·)

namespace History

/-- The numbers of the runs. -/
def ids (h : History) : List Int := h.runs.map (·.id)

section

/-- The numbers of the runs ascend to the last one given. -/
structure Numbered (h : History) : Prop where
  version : h.version = currentVersion
  ascending : h.ids.Pairwise (· < ·)
  bounded : ∀ id ∈ h.ids, id ≤ h.lastId

variable {h : History}

theorem Numbered.insertRun (hnumbered : h.Numbered) (record : RunRecord) :
    (h.insertRun record).2.Numbered := by
  have hids : (h.insertRun record).2.ids = h.ids ++ [h.lastId + 1] := by
    rw [ids, History.insertRun, List.map_append]
    rfl
  refine ⟨hnumbered.version, ?_, ?_⟩
  · rw [hids, List.pairwise_append]
    refine ⟨hnumbered.ascending, List.pairwise_singleton _ _, ?_⟩
    intro id hid next hnext
    rw [List.mem_singleton.1 hnext]
    exact Int.lt_add_one_of_le (hnumbered.bounded id hid)
  · rw [hids]
    intro id hid
    rcases List.mem_append.1 hid with hid | hid
    · exact Int.le_trans (hnumbered.bounded id hid) (Int.le_of_lt (Int.lt_succ h.lastId))
    · exact Int.le_of_eq (List.mem_singleton.1 hid)

theorem Numbered.insertVerdicts (hnumbered : h.Numbered) (id : Int) (entries : List VerdictEntry) :
    (h.insertVerdicts id entries).Numbered := by
  induction entries generalizing h with
  | nil => exact hnumbered
  | cons e rest ih => exact ih (h := h.insertVerdict id e) ⟨hnumbered.1, hnumbered.2, hnumbered.3⟩

theorem Reached.numbered (hreached : h.Reached) : h.Numbered := by
  induction hreached with
  | opened hopen =>
      cases hopen
      exact ⟨rfl, List.Pairwise.nil, nofun⟩
  | insertRun record _ ih => exact ih.insertRun record
  | insertVerdicts id entries _ ih => exact ih.insertVerdicts id entries

/-- What was only ever written as runs and verdicts is an orderly database. -/
theorem Reached.orderly (hreached : h.Reached) : h.toDatabase.Orderly where
  laidOut := by
    rw [toDatabase, hreached.numbered.version]
    exact .current rfl
  ascending := by
    have hruns : h.toDatabase.runs = h.runs := Tables.shownRuns_eq rfl
    rw [hruns]
    exact hreached.numbered.ascending

end

/-- The head of a comparison is the run that is given, or else the newest one. -/
def IsHead (h : History) (given : Option Int) (head : Int) : Prop :=
  given = some head ∨ given = none ∧ head ∈ h.ids ∧ ∀ id ∈ h.ids, id ≤ head

/-- What is chosen for a comparison without a base: a head with the newest of the other runs,
unless there is no run to be the head or no other one. -/
inductive Selects (h : History) (path : String) (given : Option Int) :
    Except CommandError (Int × Int) → Prop
  | noRuns (hgiven : given = none) (hempty : h.ids = []) :
      Selects h path given (.error (.noRuns path))
  | singleRun {head : Int} (hhead : h.IsHead given head) (honly : ∀ id ∈ h.ids, id = head) :
      Selects h path given (.error .singleRun)
  | runs {base head : Int} (hhead : h.IsHead given head) (hbase : NewestOther h.ids head base) :
      Selects h path given (.ok (base, head))

variable {h : History} {path : String} {given : Option Int} {head : Int}

theorem latest_two (h : History) : h.latest 2 = h.ids.reverse.take 2 := by
  have hbound : Column.ofNat 2 = 2 := by decide
  rw [latest, hbound]
  rfl

theorem falling_reverse_ids (hascending : h.ids.Pairwise (· < ·)) :
    h.ids.reverse.Pairwise (· > ·) :=
  List.pairwise_reverse.2 hascending

/-- The newest of the latest two runs is the newest of all. -/
theorem isHead_of_head? (hascending : h.ids.Pairwise (· < ·))
    (hhead : given.or (h.latest 2).head? = some head) : h.IsHead given head := by
  cases given with
  | some id => exact .inl hhead
  | none =>
      rw [latest_two, Option.none_or, List.head?_take, if_neg (by decide)] at hhead
      have hfound : h.ids.reverse.find? (fun _ => true) = some head := by
        rw [← hhead]
        cases h.ids.reverse <;> rfl
      refine .inr ⟨rfl, List.mem_reverse.1 (List.mem_of_find?_eq_some hfound), ?_⟩
      intro id hid
      exact le_of_find? (falling_reverse_ids hascending) hfound id (List.mem_reverse.2 hid) rfl

/-- A run that is found among the latest two is the newest one that is not the head. -/
theorem newestOther_of_find? (hascending : h.ids.Pairwise (· < ·)) {base : Int}
    (hbase : (h.latest 2).find? (· != head) = some base) : NewestOther h.ids head base := by
  have hfalling := falling_reverse_ids hascending
  rw [latest_two, find?_take_two (hfalling.imp Int.ne_of_gt)] at hbase
  refine ⟨List.mem_reverse.1 (List.mem_of_find?_eq_some hbase), ?_, ?_⟩
  · simpa using List.find?_some hbase
  · intro id hid hne
    exact le_of_find? hfalling hbase id (List.mem_reverse.2 hid) (by simpa using hne)

/-- If none is found among the latest two, there is no run but the head. -/
theorem eq_of_find?_eq_none (hascending : h.ids.Pairwise (· < ·))
    (hnone : (h.latest 2).find? (· != head) = none) : ∀ id ∈ h.ids, id = head := by
  rw [latest_two, find?_take_two ((falling_reverse_ids hascending).imp Int.ne_of_gt)] at hnone
  intro id hid
  simpa using List.find?_eq_none.1 hnone id (List.mem_reverse.2 hid)

theorem selection_of_none (hhead : given.or (h.latest 2).head? = none) :
    h.selection path none given = .error (.noRuns path) := by
  simp only [selection, hhead]
  rfl

theorem selection_of_some (hhead : given.or (h.latest 2).head? = some head) :
    h.selection path none given = match (h.latest 2).find? (· != head) with
      | some base => .ok (base, head)
      | none => .error .singleRun := by
  simp only [selection, hhead]
  rfl

theorem selects_selection (hascending : h.ids.Pairwise (· < ·)) (path : String)
    (given : Option Int) : h.Selects path given (h.selection path none given) := by
  cases hhead : given.or (h.latest 2).head? with
  | none =>
      rw [selection_of_none hhead]
      obtain ⟨hgiven, hnone⟩ := Option.or_eq_none_iff.1 hhead
      refine .noRuns hgiven ?_
      rw [latest_two, List.head?_eq_none_iff, List.take_eq_nil_iff] at hnone
      simpa using hnone
  | some head =>
      rw [selection_of_some hhead]
      have hishead := isHead_of_head? hascending hhead
      cases hbase : (h.latest 2).find? (· != head) with
      | none => exact .singleRun hishead (eq_of_find?_eq_none hascending hbase)
      | some base => exact .runs hishead (newestOther_of_find? hascending hbase)

/-- No two heads are settled on. -/
theorem IsHead.unique {other : Int} (hhead : h.IsHead given head) (hother : h.IsHead given other) :
    head = other := by
  rcases hhead with rfl | ⟨rfl, hrecorded, hnewest⟩
  · rcases hother with hsame | ⟨hnone, _, _⟩
    · exact Option.some_inj.1 hsame
    · cases hnone
  · rcases hother with hsome | ⟨_, hrecorded', hnewest'⟩
    · cases hsome
    · exact Int.le_antisymm (hnewest' head hrecorded) (hnewest other hrecorded')

/-- A head and the newest other run are what is chosen. -/
theorem Selects.eq_of_newestOther {chosen : Except CommandError (Int × Int)} {base : Int}
    (hselects : h.Selects path given chosen) (hhead : h.IsHead given head)
    (hbase : NewestOther h.ids head base) : chosen = .ok (base, head) := by
  cases hselects with
  | noRuns _ hempty =>
      have hrecorded := hbase.recorded
      rw [hempty] at hrecorded
      cases hrecorded
  | singleRun hother honly =>
      rw [hother.unique hhead] at honly
      exact absurd (honly base hbase.recorded) hbase.other
  | runs hother hnewest =>
      cases hother.unique hhead
      rw [hnewest.unique hbase]

/-- Between two runs, what is listed fails in the head and is more severe there than in the base. -/
theorem worse_of_mem_regressions {base : Int} {found : List Regression}
    (hfound : h.regressions base head = .ok found) :
    ∀ r ∈ found, r.head.isPass = false ∧ r.base.severity < r.head.severity := by
  obtain ⟨before, hbefore, hfound⟩ := bind_eq_ok_iff.1 hfound
  obtain ⟨now, hnow, hfound⟩ := bind_eq_ok_iff.1 hfound
  cases hfound
  intro r hr
  obtain ⟨v, _, hregression⟩ := List.mem_filterMap.1 hr
  obtain ⟨hfails, hworse, rfl⟩ := regression?_eq_some_iff.1 hregression
  exact ⟨hfails, hworse⟩

end History

namespace World

/-- What is shown of the regressions between two runs. -/
def shown (json : Bool) (base head : Int) (found : List Regression) : String :=
  if json then String.ofList (Json.list Regression.toJson found).pretty ++ "\n"
  else
    let lines := if found.isEmpty then ["(none)"] else found.flatMap Regression.lines
    String.join ((s!"Regressions from run {base} to run {head}:" :: lines).map (· ++ "\n"))

/-- What comes of the runs that are chosen for a comparison. -/
def compared (w : World) (h : History) (json : Bool) :
    Except CommandError (Int × Int) → Except CommandError Bool × World
  | .error e => (.error e, w)
  | .ok (base, head) =>
      match h.regressions base head with
      | .error fault => (.error (.comparison base head fault), w)
      | .ok found =>
          (.ok found.isEmpty, { w with printed := w.printed ++ shown json base head found })

variable {w w' : World} {path : String} {h : History} {d : Database}

theorem run_existingHistory (hfile : w.files.isFile w.directory path = true) :
    (host.existingHistory path).run.run w = w.opening path := by
  have hanswer : (host.isFile path).run w = (true, w) := by
    rw [← hfile]
    rfl
  unfold Host.existingHistory opening
  rw [run_lift_bind hanswer, if_pos rfl]

theorem run_showRegressions (hfile : w.files.isFile w.directory path = true)
    (hopening : w.opening path = (.ok h, w')) (base head : Option Int) (json : Bool) :
    (host.showRegressions path base head json).run.run w =
      w'.compared h json (h.selection path base head) := by
  have hchosen : (ExceptT.mk (pure (h.selection path base head)) :
      CommandM (StateM World) (Int × Int)).run.run w' = (h.selection path base head, w') := rfl
  unfold Host.showRegressions
  rw [run_bind_of_ok ((run_existingHistory hfile).trans hopening)]
  cases hselection : h.selection path base head with
  | error e =>
      rw [hselection] at hchosen
      rw [run_bind_of_error hchosen]
      rfl
  | ok runs =>
      rw [hselection] at hchosen
      rw [run_bind_of_ok hchosen]
      simp only [compared]
      cases h.regressions runs.1 runs.2 with
      | error fault => rfl
      | ok found =>
          cases json with
          | true => rfl
          | false => rfl

/-- Without a base, a command compares its head with the newest of the other runs if there is a head
and another run.  This baseline is earlier than the head exactly if the head is the newest run, as
it is where none is given; every other head is compared with a later run.  What is listed then fails
in the head and is more severe there than in the baseline. -/
theorem showRegressions_newestOther (hfile : w.files.isFile w.directory path = true)
    (hholds : w.Holds path d) (horderly : d.Orderly) (given : Option Int) (json : Bool) :
    ∃ h w' chosen, w.opening path = (.ok h, w') ∧ h.Shows d ∧ h.Selects path given chosen ∧
      (host.showRegressions path none given json).run.run w = w'.compared h json chosen ∧
      ∀ base head, chosen = .ok (base, head) →
        (base < head ↔ ∀ id ∈ h.ids, id ≤ head) ∧ (given = none → base < head) ∧
        ∀ found, h.regressions base head = .ok found →
          ∀ r ∈ found, r.head.isPass = false ∧ r.base.severity < r.head.severity := by
  obtain ⟨h, hopen, _, hshows⟩ := History.exists_openDatabase horderly.laidOut
  obtain ⟨w', hopening, _⟩ := exists_opening_of_ok hholds hopen
  have hascending : h.ids.Pairwise (· < ·) := by
    rw [History.ids, hshows.runs]
    exact horderly.ascending
  have hselects := History.selects_selection hascending path given
  refine ⟨h, w', _, hopening, hshows, hselects,
    run_showRegressions hfile hopening none given json, ?_⟩
  intro base head hchosen
  rw [hchosen] at hselects
  cases hselects with
  | runs hhead hbase =>
      refine ⟨hbase.lt_iff, ?_, fun _ hfound => History.worse_of_mem_regressions hfound⟩
      rintro rfl
      rcases hhead with hgiven | ⟨_, _, hnewest⟩
      · cases hgiven
      · exact hbase.lt_iff.2 hnewest

namespace Recovered

def record : RunRecord :=
  ⟨"s", "f", 0, 4, "c", none, some "cc", "0123456789abcdef", 1, 0⟩

def entry (verdict : Verdict) : VerdictEntry :=
  ⟨"f", .bitwise, 0, .boundary, verdict, none, "(0)"⟩

/-- Three runs; the case crashes in the first two and is equivalent in the third. -/
def recorded : History :=
  let first := (History.empty.recordRun record [entry .crashMismatch]).2
  let second := (first.recordRun record [entry .crashMismatch]).2
  (second.recordRun record [entry .equivalent]).2

theorem reached_recorded : recorded.Reached :=
  (((History.Reached.opened rfl).recordRun _ _).recordRun _ _).recordRun _ _

/-- A world with that history in its root. -/
def world : World :=
  Outdated.keeping recorded.toDatabase

theorem opening_recorded : world.opening "h.db" = (.ok recorded, world) :=
  opening_of_same (Outdated.holds_keeping _) (History.openDatabase_toDatabase rfl) rfl

/-- The newest run is compared with the second one; but the second one is compared with the
newest. -/
theorem showRegressions_newestOther_recovered :
    (host.showRegressions "h.db" none none false).run.run world =
        world.compared recorded false (.ok (2, 3)) ∧
      (host.showRegressions "h.db" none (some 2) false).run.run world =
        world.compared recorded false (.ok (3, 2)) := by
  have hfile : world.files.isFile world.directory "h.db" = true := by
    rfl
  have hchosen : ∀ given base head, recorded.IsHead given head →
      NewestOther recorded.ids head base →
      (host.showRegressions "h.db" none given false).run.run world =
        world.compared recorded false (.ok (base, head)) := by
    intro given base head hhead hbase
    obtain ⟨h, w', chosen, hopening, _, hselects, hrun, _⟩ :=
      showRegressions_newestOther hfile (Outdated.holds_keeping _) reached_recorded.orderly given
        false
    cases opening_recorded.symm.trans hopening
    rw [hrun, hselects.eq_of_newestOther hhead hbase]
  constructor
  · exact hchosen none 2 3 (.inr ⟨rfl, by decide, by decide⟩) ⟨by decide, by decide, by decide⟩
  · exact hchosen (some 2) 3 2 (.inl rfl) ⟨by decide, by decide, by decide⟩

/-- The second run is no worse than the first, but shown to be worse than the third. -/
theorem showRegressions_not_earlier_recovered :
    recorded.ids = [1, 2, 3] ∧ recorded.regressions 1 2 = .ok [] ∧
      (host.showRegressions "h.db" none (some 2) false).run.run world =
        (.ok false, { world with printed :=
          "Regressions from run 3 to run 2:\n- f #0: equivalent -> crash_mismatch\n" }) := by
  refine ⟨by decide, by decide, ?_⟩
  rw [run_showRegressions (by rfl) opening_recorded]
  rfl

end Recovered

end World

end Counterpart
