/-
Histories at rest.  A database knows the version of its layout; opening one brings it to
the current version, and a newer one is left alone.
-/
import Counterpart.History.Store

namespace Counterpart

/-- The tables of a database. -/
structure Tables where
  /-- Whether runs have a column for the toolchain, which the first layout lacks. -/
  hasToolchain : Bool
  lastId : Int
  runs : List RunRow
  verdicts : List VerdictRow
  deriving DecidableEq, Repr

/-- A history at rest. -/
structure Database where
  version : Int
  /-- None before the first use. -/
  tables : Option Tables
  deriving DecidableEq, Repr

namespace Tables

/-- Tables without rows, as the first layout has them. -/
def initial : Tables := ⟨false, 0, [], []⟩

/-- The tables with a column for the toolchain, which is empty where it is new. -/
def addToolchain (t : Tables) : Tables :=
  if t.hasToolchain then t
  else { t with hasToolchain := true, runs := t.runs.map fun row => { row with toolchain := none } }

end Tables

namespace Database

/-- The database of a new file. -/
def fresh : Database := ⟨0, none⟩

/-- The first step: a database that was never used gets its tables. -/
def createTables (d : Database) : Database :=
  if d.version = 0 then ⟨1, some (d.tables.getD .initial)⟩ else d

/-- The second step: the column for the toolchain. -/
def addToolchain (d : Database) : Except HistoryError Database :=
  if d.version < currentVersion then
    match d.tables with
    | some t => .ok ⟨currentVersion, some t.addToolchain⟩
    | none => .error .damaged
  else .ok d

/-- The database brought to the current version. -/
def migrate (d : Database) : Except HistoryError Database :=
  if currentVersion < d.version then .error (.unsupportedVersion d.version)
  else d.createTables.addToolchain

end Database

namespace History

/-- The history as it is put to rest. -/
def toDatabase (h : History) : Database :=
  ⟨h.version, some ⟨true, h.lastId, h.runs, h.verdicts⟩⟩

/-- Opens a database at its current version. -/
def ofDatabase (d : Database) : Except HistoryError History :=
  match d.tables with
  | some t =>
      if t.hasToolchain then .ok ⟨d.version, t.lastId, t.runs, t.verdicts⟩ else .error .damaged
  | none => .error .damaged

/-- Opens a database of any supported version. -/
def openDatabase (d : Database) : Except HistoryError History :=
  d.migrate.bind ofDatabase

end History

end Counterpart
