/-
What commands need of the system they run on.
-/
import Counterpart.Command.Error
import Counterpart.Harness.Run
import Counterpart.History.Database
import Counterpart.Json.Write

namespace Counterpart

/-- The operations of a host whose actions live in `m`. -/
structure Host (m : Type → Type) where
  /-- The content of the file at a path. -/
  read : String → m (Option Bytes)
  isFile : String → m Bool
  isDirectory : String → m Bool
  /-- The path without detours to what is there. -/
  canonical : String → m (Option String)
  currentDirectory : m String
  /-- Writes a file and tells whether it could. -/
  write : String → Bytes → m Bool
  /-- The database at a path, if anything is there. -/
  readDatabase : String → m (Except HistoryError (Option Database))
  /-- Keeps a database at a path and tells whether it could. -/
  writeDatabase : String → Database → m Bool
  /-- Makes every directory on a path and tells whether it could. -/
  makeDirectories : String → m Bool
  /-- Prints to the standard output. -/
  print : String → m Unit
  surroundings : m Surroundings
  /-- The time, as it is recorded. -/
  now : m String
  /-- Runs pairs under a configuration on a number of argument sets from a seed. -/
  runPairs : Config → List CasePair → (seed count : Nat) → m (Except HarnessError RunSummary)

/-- Actions of a command, which may give up. -/
abbrev CommandM (m : Type → Type) := ExceptT CommandError m

namespace Host

variable {m : Type → Type} [Monad m]

/-- Prints a line. -/
def printLine (host : Host m) (line : String) : m Unit :=
  host.print (line ++ "\n")

/-- Prints lines. -/
def printLines (host : Host m) (lines : List String) : m Unit :=
  host.print (String.join (lines.map (· ++ "\n")))

/-- Prints a value as laid-out JSON. -/
def printJson (host : Host m) (value : Json) : m Unit :=
  host.printLine (String.ofList value.pretty)

/-- The place of a directory: without detours if it is there, else below the current
directory. -/
def place (host : Host m) (path : String) : m String := do
  let cwd ← host.currentDirectory
  if !Path.isAbsolute path && Path.components path == ["."] then return cwd
  else match ← host.canonical path with
    | some found => return found
    | none => return Path.join cwd path

/-- A directory that must be there. -/
def existingDirectory (host : Host m) (path what : String) : CommandM m String := do
  let found ← host.place path
  if ← host.isDirectory found then return found
  else throw (.directory what found)

end Host

end Counterpart
