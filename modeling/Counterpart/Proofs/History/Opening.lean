/-
Opening a history where it is kept.  The file of a database stays where it is when the database in
it is written anew, so what one opening keeps is what the next one finds; and a database of a
newer version is not written at all.
-/
import Counterpart.Command.Records
import Counterpart.Proofs.Corpus.Directory
import Counterpart.Proofs.History.Migration

namespace Counterpart

namespace FileTree

variable {tree tree' : FileTree} {base place : Location} {path : String} {d d' : Database}

theorem at?_put_self (hplace : place ≠ []) (entry : FileEntry) :
    (tree.put place entry).at? place = some entry := by
  rw [at?, if_neg (by simpa using hplace), put, List.lookup_cons_self]

theorem at?_put_of_ne {other : Location} (hne : other ≠ place) (entry : FileEntry) :
    (tree.put place entry).at? other = tree.at? other := by
  unfold at? put
  rw [List.lookup_cons, beq_false_of_ne hne]

theorem ne_nil_of_isFileAt (hfile : tree.isFileAt place = true) : place ≠ [] := by
  rintro rfl
  cases hfile

/-- Writing a file that is there leaves all other places as they are. -/
theorem isFileAt_put (hfile : tree.isFileAt place = true) (d : Database) (other : Location) :
    (tree.put place (.database d)).isFileAt other = tree.isFileAt other := by
  by_cases hsame : other = place
  · rw [hsame, hfile, isFileAt, at?_put_self (ne_nil_of_isFileAt hfile)]
  · rw [isFileAt, isFileAt, at?_put_of_ne hsame]

theorem shorten_congr (hfiles : ∀ place, tree'.isFileAt place = tree.isFileAt place)
    (place : Location) (parts : List (List Char)) :
    tree'.shorten place parts = tree.shorten place parts := by
  induction parts generalizing place with
  | nil => rfl
  | cons part parts ih => simp only [shorten, ih, hfiles]

theorem exists_place_of_readDatabase (hread : tree.readDatabase base path = .ok (some d)) :
    ∃ place, tree.databasePlace? base path = some place ∧ tree.isFileAt place = true := by
  unfold readDatabase at hread
  split at hread
  · cases hread
  · next place hplace =>
      refine ⟨place, hplace, ?_⟩
      rw [isFileAt]
      cases hentry : tree.at? place with
      | none =>
          rw [hentry] at hread
          dsimp only at hread
          split at hread <;> cases hread
      | some entry =>
          cases entry with
          | directory =>
              rw [hentry] at hread
              cases hread
          | file content => rfl
          | database d => rfl

/-- What is written over a database is what is read there. -/
theorem exists_writeDatabase? (hread : tree.readDatabase base path = .ok (some d)) (d' : Database) :
    ∃ tree', tree.writeDatabase? base path d' = some tree' ∧
      tree'.readDatabase base path = .ok (some d') := by
  obtain ⟨place, hplace, hfile⟩ := exists_place_of_readDatabase hread
  have hsame : (tree.put place (.database d')).databasePlace? base path = some place := by
    rw [← hplace]
    exact shorten_congr (isFileAt_put hfile d') _ _
  refine ⟨tree.put place (.database d'), ?_, ?_⟩
  · rw [writeDatabase?, hplace, Option.bind_some, hfile, Bool.true_or, if_pos rfl]
  · simp only [readDatabase, hsame, at?_put_self (ne_nil_of_isFileAt hfile)]

end FileTree

namespace World

/-- The file that a text addresses holds a database, and may be changed. -/
def Holds (w : World) (text : String) (d : Database) : Prop :=
  ∃ path access, DatabaseAddress.ofText? text = some ⟨some path, access⟩ ∧ access ≠ .reading ∧
    w.files.readDatabase w.directory path = .ok (some d)

/-- What comes of opening the history that a text addresses. -/
def opening (w : World) (text : String) : Except CommandError History × World :=
  (host.openHistory text).run.run w

variable {w : World} {text : String} {d : Database} {h : History}

theorem run_database {path : String} {access : DatabaseAccess}
    (hread : w.files.readDatabase w.directory path = .ok (some d)) :
    (host.database ⟨some path, access⟩).run w = (.ok d, w) := by
  have hanswer : (host.readDatabase path).run w = (.ok (some d), w) := by
    rw [← hread]
    rfl
  unfold Host.database
  rw [StateT.run_bind, hanswer]
  rfl

/-- A database that cannot be opened is left as it is. -/
theorem opening_of_error (hholds : w.Holds text d) {e : HistoryError}
    (herror : History.openDatabase d = .error e) :
    w.opening text = (.error (.history text e), w) := by
  obtain ⟨path, access, haddress, _, hread⟩ := hholds
  unfold opening Host.openHistory
  simp only [haddress]
  rw [run_lift_bind (run_database hread)]
  simp only [herror]
  rfl

/-- A database that is as the history would be kept is left as it is. -/
theorem opening_of_same (hholds : w.Holds text d) (hopen : History.openDatabase d = .ok h)
    (hsame : h.toDatabase = d) : w.opening text = (.ok h, w) := by
  obtain ⟨path, access, haddress, _, hread⟩ := hholds
  unfold opening Host.openHistory
  simp only [haddress]
  rw [run_lift_bind (run_database hread)]
  simp only [hopen]
  rw [if_pos hsame]
  rfl

/-- The history of a database that is opened is what is kept afterwards. -/
theorem exists_opening_of_ok (hholds : w.Holds text d) (hopen : History.openDatabase d = .ok h) :
    ∃ w', w.opening text = (.ok h, w') ∧ w'.Holds text h.toDatabase := by
  by_cases hsame : h.toDatabase = d
  · exact ⟨w, opening_of_same hholds hopen hsame, hsame ▸ hholds⟩
  · obtain ⟨path, access, haddress, hwritable, hread⟩ := hholds
    obtain ⟨files, hwrite, hagain⟩ := FileTree.exists_writeDatabase? hread h.toDatabase
    have hkeep : (host.keep ⟨some path, access⟩ h.toDatabase).run w =
        (true, { w with files := files }) := by
      have haccess : DatabaseAddress.isWritable ⟨some path, access⟩ = true := bne_iff_ne.2 hwritable
      unfold Host.keep
      rw [haccess]
      change adopt (fun files base => files.writeDatabase? base path h.toDatabase) w = _
      simp only [adopt, hwrite]
    refine ⟨{ w with files := files }, ?_, path, access, haddress, hwritable, hagain⟩
    unfold opening Host.openHistory
    simp only [haddress]
    rw [run_lift_bind (run_database hread)]
    simp only [hopen]
    rw [if_neg hsame, run_lift_bind hkeep]
    rfl

/-- Opening brings a history in any layout to version 2 with the column for the toolchain, and so it
is found again when it is opened once more.  Every run and every verdict is kept with its values,
and runs of a layout without the column tell no toolchain.  A history whose upgrade was stopped
opens just as it would have before.  One of a later version is refused by that version and left as
it is. -/
theorem opening_brings_up_to_date (hholds : w.Holds text d) :
    (d.LaidOut → ∃ h w', w.opening text = (.ok h, w') ∧ w'.Holds text h.toDatabase ∧
      h.toDatabase.version = 2 ∧ h.toDatabase.hasColumn = true ∧
      h.toDatabase.runs = d.runs ∧ h.toDatabase.verdicts = d.verdicts ∧
      h.listRuns = d.runs.map (·.toRun) ∧
      (d.hasColumn = false → ∀ run ∈ h.listRuns, run.record.toolchain = none) ∧
      w'.opening text = (.ok h, w') ∧
      ∀ stopped (v : World), d.LeavesStopped stopped → v.Holds text stopped →
        ∃ v', v.opening text = (.ok h, v') ∧ v'.Holds text h.toDatabase) ∧
    (2 < d.version →
      w.opening text = (.error (.history text (.unsupportedVersion d.version)), w)) := by
  constructor
  · intro hlaid
    obtain ⟨h, hopen, hmigrate, hshows⟩ := History.exists_openDatabase hlaid
    obtain ⟨w', hopening, hholds'⟩ := exists_opening_of_ok hholds hopen
    have hagain := opening_of_same hholds' (History.openDatabase_toDatabase hshows.version) rfl
    have hruns : h.toDatabase.runs = h.runs := Tables.shownRuns_eq rfl
    have hlisted : h.listRuns = d.runs.map (·.toRun) := by rw [History.listRuns, hshows.runs]
    refine ⟨h, w', hopening, hholds', hshows.version, rfl, hruns.trans hshows.runs, hshows.verdicts,
      hlisted, ?_, hagain, ?_⟩
    · intro hnone run hrun
      rw [hlisted] at hrun
      obtain ⟨row, hrow, rfl⟩ := List.mem_map.1 hrun
      exact Database.toolchain_of_mem_runs hnone hrow
    · intro stopped v hstopped hheld
      have hsame := History.openDatabase_leavesStopped hlaid hstopped
      exact exists_opening_of_ok hheld (hsame.trans hopen)
  · intro hnewer
    exact opening_of_error hholds (History.openDatabase_newer hnewer)

namespace Outdated

/-- Tables with a run and a verdict on it. -/
def tables (hasColumn : Bool) : Tables :=
  ⟨hasColumn, 1, [⟨1, "s1", "f1", -1, 4, "c1", none, none, "h1", 2, 1⟩],
    [⟨1, "old", "bitwise", 0, "random", "timeout", none⟩]⟩

/-- A world with a database in its root. -/
def keeping (d : Database) : World where
  files := ⟨[(["h.db"], .database d)]⟩
  directory := []
  surroundings := ⟨fun _ => none, 2⟩
  compilers := []
  printed := ""

theorem holds_keeping (d : Database) : (keeping d).Holds "h.db" d :=
  ⟨"h.db", .creating, by rfl, nofun, by rfl⟩

/-- An upgrade that adds the column and is stopped before the version is raised. -/
theorem leavesStopped_column :
    Database.LeavesStopped ⟨1, some (tables false)⟩ ⟨1, some (tables true)⟩ :=
  ⟨[.column], [.version], rfl, rfl⟩

/-- A run of the first version is still read after the upgrade, also if that was stopped halfway;
a history of the third version is left alone. -/
theorem opening_brings_up_to_date_outdated :
    (∃ h w' v', (keeping ⟨1, some (tables false)⟩).opening "h.db" = (.ok h, w') ∧
      h.listRuns = [⟨1, ⟨"s1", "f1", 2 ^ 64 - 1, 4, "c1", none, none, "h1", 2, 1⟩⟩] ∧
      w'.opening "h.db" = (.ok h, w') ∧
      (keeping ⟨1, some (tables true)⟩).opening "h.db" = (.ok h, v')) ∧
    (keeping ⟨3, none⟩).opening "h.db" =
      (.error (.history "h.db" (.unsupportedVersion 3)), keeping ⟨3, none⟩) := by
  constructor
  · obtain ⟨hlaid, _⟩ := opening_brings_up_to_date (holds_keeping ⟨1, some (tables false)⟩)
    obtain ⟨h, w', hopening, _, _, _, _, _, hlisted, _, hagain, hstopped⟩ := hlaid (.first _)
    obtain ⟨v', hstopped, _⟩ := hstopped _ _ leavesStopped_column (holds_keeping _)
    exact ⟨h, w', v', hopening, hlisted.trans (by decide), hagain, hstopped⟩
  · exact (opening_brings_up_to_date (holds_keeping ⟨3, none⟩)).2 (by decide)

end Outdated

end World

end Counterpart
