/-
Opening a database of any supported layout.  An upgrade is a few changes, each of which is kept by
itself, so one that is stopped leaves a layout between the others.  Every change keeps what the
database holds, and the changes that are still due are read off the database, so going on from
where an upgrade was stopped comes to the same as never having stopped.
-/
import Counterpart.History.Database

namespace Counterpart

/-- A change of an upgrade, which is made as a whole or not at all. -/
inductive DatabaseChange where
  /-- The tables of the first layout, and the version of it. -/
  | tables
  /-- The column for the toolchain. -/
  | column
  /-- The current version. -/
  | version
  deriving DecidableEq, Repr

/-- The row as it is read.  Without a column for it no toolchain is told. -/
def RunRow.shown (hasColumn : Bool) (row : RunRow) : RunRow :=
  { row with toolchain := if hasColumn then row.toolchain else none }

namespace Tables

/-- The runs as they are read. -/
def shownRuns (t : Tables) : List RunRow :=
  t.runs.map (·.shown t.hasToolchain)

theorem shownRuns_eq {t : Tables} (hcolumn : t.hasToolchain = true) : t.shownRuns = t.runs := by
  rw [shownRuns, hcolumn]
  exact List.map_id _

theorem hasToolchain_addToolchain (t : Tables) : t.addToolchain.hasToolchain = true := by
  unfold addToolchain
  split
  · next hcolumn => exact hcolumn
  · rfl

theorem shownRuns_addToolchain (t : Tables) : t.addToolchain.shownRuns = t.shownRuns := by
  rw [shownRuns_eq t.hasToolchain_addToolchain, shownRuns, addToolchain]
  split
  · next hcolumn =>
      rw [hcolumn]
      exact (List.map_id _).symm
  · next hcolumn =>
      rw [Bool.eq_false_iff.2 hcolumn]
      rfl

theorem lastId_addToolchain (t : Tables) : t.addToolchain.lastId = t.lastId := by
  unfold addToolchain
  split <;> rfl

theorem verdicts_addToolchain (t : Tables) : t.addToolchain.verdicts = t.verdicts := by
  unfold addToolchain
  split <;> rfl

end Tables

namespace Database

/-- Whether there is a column for the toolchain. -/
def hasColumn (d : Database) : Bool := d.tables.any (·.hasToolchain)

def runs (d : Database) : List RunRow := (d.tables.map (·.shownRuns)).getD []

def verdicts (d : Database) : List VerdictRow := (d.tables.map (·.verdicts)).getD []

def lastId (d : Database) : Int := (d.tables.map (·.lastId)).getD 0

/-- The database after a change.  A column is added once, and to tables that are there. -/
def change? (d : Database) : DatabaseChange → Option Database
  | .tables => some ⟨1, some (d.tables.getD .initial)⟩
  | .column => if d.hasColumn then none else d.tables.map fun t => ⟨d.version, some t.addToolchain⟩
  | .version => d.tables.map fun t => ⟨currentVersion, some t⟩

/-- The database after changes one after another. -/
def after? (d : Database) : List DatabaseChange → Option Database
  | [] => some d
  | c :: cs => (d.change? c).bind fun next => next.after? cs

/-- The changes that tables of the first layout still need. -/
def dueInFirst (d : Database) : List DatabaseChange :=
  if d.hasColumn then [.version] else [.column, .version]

/-- The changes that bring a database to the current version. -/
def due (d : Database) : List DatabaseChange :=
  if d.version = 0 then .tables :: d.dueInFirst
  else if d.version < currentVersion then d.dueInFirst
  else []

/-- What an upgrade leaves if it is stopped before it is done, or once it is. -/
def LeavesStopped (d stopped : Database) : Prop :=
  ∃ made left, d.due = made ++ left ∧ d.after? made = some stopped

/-- The layouts of the versions.  The first one may have the column already. -/
inductive LaidOut : Database → Prop
  | unused : LaidOut ⟨0, none⟩
  | first (t : Tables) : LaidOut ⟨1, some t⟩
  | current {t : Tables} (hcolumn : t.hasToolchain = true) : LaidOut ⟨currentVersion, some t⟩

/-- Two databases hold the same runs and verdicts. -/
structure SameContent (d d' : Database) : Prop where
  lastId : d'.lastId = d.lastId
  runs : d'.runs = d.runs
  verdicts : d'.verdicts = d.verdicts

variable {d d' : Database} {c : DatabaseChange} {cs : List DatabaseChange}

theorem toolchain_of_mem_runs (hcolumn : d.hasColumn = false) {row : RunRow} (hrow : row ∈ d.runs) :
    row.toolchain = none := by
  obtain ⟨version, tables⟩ := d
  cases tables with
  | none => cases hrow
  | some t =>
      obtain ⟨row, _, rfl⟩ := List.mem_map.1 hrow
      rw [RunRow.shown]
      exact if_neg (Bool.eq_false_iff.1 hcolumn)

theorem after?_append (made left : List DatabaseChange) :
    d.after? (made ++ left) = (d.after? made).bind fun next => next.after? left := by
  induction made generalizing d with
  | nil => rfl
  | cons c made ih =>
      rw [List.cons_append, after?, after?]
      cases d.change? c with
      | none => rfl
      | some next => exact ih

theorem change?_column_iff : d.change? .column = some d' ↔
    d.hasColumn = false ∧ ∃ t, d.tables = some t ∧ ⟨d.version, some t.addToolchain⟩ = d' := by
  cases hcolumn : d.hasColumn with
  | false => simp [change?, hcolumn]
  | true => simp [change?, hcolumn]

theorem change?_version_iff : d.change? .version = some d' ↔
    ∃ t, d.tables = some t ∧ ⟨currentVersion, some t⟩ = d' := by
  simp [change?]

theorem SameContent.refl (d : Database) : d.SameContent d :=
  ⟨rfl, rfl, rfl⟩

theorem SameContent.trans {d'' : Database} (hfirst : d.SameContent d')
    (hsecond : d'.SameContent d'') : d.SameContent d'' where
  lastId := hsecond.lastId.trans hfirst.lastId
  runs := hsecond.runs.trans hfirst.runs
  verdicts := hsecond.verdicts.trans hfirst.verdicts

/-- No change touches what the database holds. -/
theorem sameContent_of_change? (hchange : d.change? c = some d') : d.SameContent d' := by
  obtain ⟨version, tables⟩ := d
  cases c with
  | tables =>
      cases hchange
      cases tables with
      | none => exact ⟨rfl, rfl, rfl⟩
      | some t => exact ⟨rfl, rfl, rfl⟩
  | column =>
      obtain ⟨_, t, rfl, rfl⟩ := change?_column_iff.1 hchange
      exact ⟨t.lastId_addToolchain, t.shownRuns_addToolchain, t.verdicts_addToolchain⟩
  | version =>
      obtain ⟨t, rfl, rfl⟩ := change?_version_iff.1 hchange
      exact ⟨rfl, rfl, rfl⟩

theorem due_first (tables : Option Tables) : due ⟨1, tables⟩ = dueInFirst ⟨1, tables⟩ :=
  rfl

theorem due_current (tables : Option Tables) : due ⟨currentVersion, tables⟩ = [] :=
  rfl

/-- After a change that is due the others are still due. -/
theorem due_of_change? (hdue : d.due = c :: cs) (hchange : d.change? c = some d') :
    d'.due = cs := by
  unfold due at hdue
  split at hdue
  · cases hdue
    cases hchange
    have hcolumn : hasColumn ⟨1, some (d.tables.getD .initial)⟩ = d.hasColumn := by
      unfold hasColumn
      cases d.tables <;> rfl
    rw [due_first, dueInFirst, hcolumn, dueInFirst]
  · next hused =>
      split at hdue
      · next hold =>
          unfold dueInFirst at hdue
          split at hdue
          · cases hdue
            obtain ⟨t, _, rfl⟩ := change?_version_iff.1 hchange
            exact due_current _
          · cases hdue
            obtain ⟨_, t, _, rfl⟩ := change?_column_iff.1 hchange
            have hcolumn : hasColumn ⟨d.version, some t.addToolchain⟩ = true :=
              t.hasToolchain_addToolchain
            rw [due, if_neg hused, if_pos hold, dueInFirst, hcolumn, if_pos rfl]
      · cases hdue

/-- A change that is due can be made, and leads to a layout again. -/
theorem LaidOut.exists_change? (hlaid : d.LaidOut) (hdue : d.due = c :: cs) :
    ∃ next, d.change? c = some next ∧ next.LaidOut := by
  cases hlaid with
  | unused =>
      cases hdue
      exact ⟨_, rfl, .first _⟩
  | first t =>
      rw [due_first, dueInFirst] at hdue
      split at hdue
      · next hcolumn =>
          cases hdue
          exact ⟨_, rfl, .current hcolumn⟩
      · next hcolumn =>
          cases hdue
          exact ⟨_, change?_column_iff.2 ⟨Bool.eq_false_iff.2 hcolumn, t, rfl, rfl⟩, .first _⟩
  | current hcolumn =>
      rw [due_current] at hdue
      cases hdue

/-- The changes that are due lead from any layout to the current one. -/
theorem LaidOut.exists_after? (hlaid : d.LaidOut) : ∃ t : Tables, t.hasToolchain = true ∧
    d.after? d.due = some ⟨currentVersion, some t⟩ ∧ d.SameContent ⟨currentVersion, some t⟩ := by
  generalize hdue : d.due = cs
  induction cs generalizing d with
  | nil =>
      cases hlaid with
      | unused => cases hdue
      | first t =>
          rw [due_first, dueInFirst] at hdue
          split at hdue <;> cases hdue
      | current hcolumn => exact ⟨_, hcolumn, rfl, .refl _⟩
  | cons c cs ih =>
      obtain ⟨next, hchange, hnext⟩ := hlaid.exists_change? hdue
      obtain ⟨t, hcolumn, hafter, hsame⟩ := ih hnext (due_of_change? hdue hchange)
      refine ⟨t, hcolumn, ?_, (sameContent_of_change? hchange).trans hsame⟩
      rw [after?, hchange, Option.bind_some, hafter]

/-- Going on from where an upgrade was stopped, the changes that were left are due. -/
theorem due_of_after? {made left : List DatabaseChange} {stopped : Database}
    (hdue : d.due = made ++ left) (hmade : d.after? made = some stopped) : stopped.due = left := by
  induction made generalizing d with
  | nil =>
      cases hmade
      exact hdue
  | cons c made ih =>
      obtain ⟨next, hchange, hnext⟩ := Option.bind_eq_some_iff.1 hmade
      exact ih (due_of_change? hdue hchange) hnext

theorem LaidOut.of_leavesStopped {stopped : Database} (hlaid : d.LaidOut)
    (hstopped : d.LeavesStopped stopped) : stopped.LaidOut := by
  obtain ⟨made, left, hdue, hmade⟩ := hstopped
  induction made generalizing d with
  | nil =>
      cases hmade
      exact hlaid
  | cons c made ih =>
      obtain ⟨next, hchange, hnext⟩ := Option.bind_eq_some_iff.1 hmade
      obtain ⟨next', hchange', hlaid'⟩ := hlaid.exists_change? hdue
      cases hchange.symm.trans hchange'
      exact ih hlaid' (due_of_change? hdue hchange) hnext

theorem LaidOut.version_le (hlaid : d.LaidOut) : d.version ≤ currentVersion := by
  cases hlaid <;> simp [currentVersion]

/-- An upgrade that was stopped anywhere is finished by the next one. -/
theorem after?_due_of_leavesStopped {stopped : Database} (hstopped : d.LeavesStopped stopped) :
    stopped.after? stopped.due = d.after? d.due := by
  obtain ⟨made, left, hdue, hmade⟩ := hstopped
  rw [due_of_after? hdue hmade, hdue, after?_append, hmade, Option.bind_some]

theorem after?_dueInFirst (version : Int) (t : Tables) :
    after? ⟨version, some t⟩ (dueInFirst ⟨version, some t⟩) =
      some ⟨currentVersion, some t.addToolchain⟩ := by
  unfold dueInFirst
  split
  · next hcolumn =>
      have hsame : t.addToolchain = t := if_pos hcolumn
      rw [hsame]
      rfl
  · next hcolumn =>
      have hchange : change? ⟨version, some t⟩ .column = some ⟨version, some t.addToolchain⟩ :=
        change?_column_iff.2 ⟨Bool.eq_false_iff.2 hcolumn, t, rfl, rfl⟩
      rw [after?, hchange]
      rfl

/-- A database is brought to the current version by the changes that are due. -/
theorem migrate_eq_ok_iff (hversion : d.version ≤ currentVersion) :
    d.migrate = .ok d' ↔ d.after? d.due = some d' := by
  obtain ⟨version, tables⟩ := d
  rw [migrate, if_neg (Int.not_lt.2 hversion)]
  by_cases hunused : version = 0
  · subst hunused
    have hdue : due ⟨0, tables⟩ = .tables :: dueInFirst ⟨1, some (tables.getD .initial)⟩ := by
      cases tables <;> rfl
    have hcreated : change? ⟨0, tables⟩ .tables = some ⟨1, some (tables.getD .initial)⟩ := rfl
    have hadded : addToolchain (createTables ⟨0, tables⟩) =
        .ok ⟨currentVersion, some (tables.getD .initial).addToolchain⟩ := rfl
    rw [hdue, after?, hcreated, Option.bind_some, after?_dueInFirst, hadded, Except.ok.injEq,
      Option.some_inj]
  · have hcreated : createTables ⟨version, tables⟩ = ⟨version, tables⟩ := if_neg hunused
    rw [hcreated, due, if_neg hunused, addToolchain]
    by_cases hold : version < currentVersion
    · rw [if_pos hold, if_pos hold]
      cases tables with
      | none => simp [dueInFirst, hasColumn, after?, change?]
      | some t => rw [after?_dueInFirst, Except.ok.injEq, Option.some_inj]
    · rw [if_neg hold, if_neg hold, Except.ok.injEq, after?, Option.some_inj]

end Database

namespace History

variable {d stopped : Database}

theorem openDatabase_newer (hnewer : currentVersion < d.version) :
    openDatabase d = .error (.unsupportedVersion d.version) := by
  rw [openDatabase, Database.migrate, if_pos hnewer]
  rfl

/-- A history that shows what a database holds, in the current layout. -/
structure Shows (h : History) (d : Database) : Prop where
  version : h.version = currentVersion
  lastId : h.lastId = d.lastId
  runs : h.runs = d.runs
  verdicts : h.verdicts = d.verdicts

/-- Every layout is opened, and the database is brought to the current one. -/
theorem exists_openDatabase (hlaid : d.LaidOut) :
    ∃ h, openDatabase d = .ok h ∧ d.migrate = .ok h.toDatabase ∧ h.Shows d := by
  obtain ⟨t, hcolumn, hafter, hsame⟩ := hlaid.exists_after?
  have hmigrate : d.migrate = .ok ⟨currentVersion, some t⟩ :=
    (Database.migrate_eq_ok_iff hlaid.version_le).2 hafter
  have hopen : openDatabase d = .ok ⟨currentVersion, t.lastId, t.runs, t.verdicts⟩ := by
    rw [openDatabase, hmigrate]
    exact if_pos hcolumn
  have hrest : toDatabase ⟨currentVersion, t.lastId, t.runs, t.verdicts⟩ =
      ⟨currentVersion, some t⟩ := by
    rw [toDatabase, ← hcolumn]
  refine ⟨_, hopen, hrest ▸ hmigrate, rfl, hsame.lastId, ?_, hsame.verdicts⟩
  exact (Tables.shownRuns_eq hcolumn).symm.trans hsame.runs

/-- Opening what was put to rest in the current layout gives it back. -/
theorem openDatabase_toDatabase {h : History} (hversion : h.version = currentVersion) :
    openDatabase h.toDatabase = .ok h := by
  have hmigrate : h.toDatabase.migrate = .ok h.toDatabase := by
    have hold : h.toDatabase.version ≤ currentVersion := Int.le_of_eq hversion
    rw [Database.migrate_eq_ok_iff hold, toDatabase, hversion, Database.due_current,
      Database.after?]
  rw [openDatabase, hmigrate]
  rfl

/-- A database on which an upgrade was stopped is opened as if it had not been stopped. -/
theorem openDatabase_leavesStopped (hlaid : d.LaidOut) (hstopped : d.LeavesStopped stopped) :
    openDatabase stopped = openDatabase d := by
  obtain ⟨h, hopen, hmigrate, _⟩ := exists_openDatabase hlaid
  have hagain : stopped.migrate = d.migrate := by
    rw [hmigrate, Database.migrate_eq_ok_iff (hlaid.of_leavesStopped hstopped).version_le,
      Database.after?_due_of_leavesStopped hstopped,
      ← Database.migrate_eq_ok_iff hlaid.version_le, hmigrate]
  rw [openDatabase, openDatabase, hagain]

end History

end Counterpart
