/-
A host held in memory: a tree of files, an environment, and what was printed.  Runs on it
are rehearsals, in which the sources are scripts and the compilers are named with what
they print when they are asked for their version.
-/
import Counterpart.Command.Host
import Counterpart.FileTree
import Counterpart.Rehearsal.Bench
import Counterpart.Toolchain.Compiler

namespace Counterpart

/-- The state of a host held in memory. -/
structure World where
  files : FileTree
  /-- The current directory. -/
  directory : Location
  surroundings : Surroundings
  /-- The compilers, with what they print for a version. -/
  compilers : List (String × Bytes)
  printed : String

namespace World

/-- What a compiler prints for a version.  A name with a slash is a path to it. -/
def versionOutput? (w : World) (program : String) : Option Bytes :=
  if program.toList.contains '/' then
    (w.files.resolve? w.directory program).bind fun place =>
      w.compilers.lookup (FileTree.pathOf place)
  else w.compilers.lookup program

/-- What happens when a compiler of the world is asked for its version. -/
def askVersion (w : World) (program : String) : Except String FinishedProcess :=
  match w.versionOutput? program with
  | some stdout => .ok ⟨.code 0, stdout, []⟩
  | none => .error "no such program"

/-- Where rehearsals build; the path leads to nothing in the tree. -/
def workdir : String := "/rehearsal/work"

/-- A rehearsal with the compiler of a configuration and the sources of the world. -/
def rehearsal (w : World) (config : Config) : Rehearsal :=
  let compiler := Compiler.ofConfig config
  .start compiler.program (compiler.version (w.askVersion compiler.program)) workdir .plain
    fun source => ((w.files.read? w.directory source).map Script.ofSource).getD .plain

/-- Adds to what was printed. -/
def print (text : String) : StateM World Unit :=
  modify fun w => { w with printed := w.printed ++ text }

/-- Replaces the tree if there is a new one, and tells whether there is. -/
def adopt (change? : FileTree → Location → Option FileTree) : StateM World Bool := fun w =>
  match change? w.files w.directory with
  | some files => (true, { w with files := files })
  | none => (false, w)

/-- The world as a host. -/
def host : Host (StateM World) where
  read := fun path w => (w.files.read? w.directory path, w)
  isFile := fun path w => (w.files.isFile w.directory path, w)
  isDirectory := fun path w => (w.files.isDirectory w.directory path, w)
  canonical := fun path w => ((w.files.resolve? w.directory path).map FileTree.pathOf, w)
  currentDirectory := fun w => (FileTree.pathOf w.directory, w)
  write := fun path content => adopt fun files base => files.write? base path content
  readDatabase := fun path w => (w.files.readDatabase w.directory path, w)
  writeDatabase := fun path d => adopt fun files base => files.writeDatabase? base path d
  makeDirectories := fun path => adopt fun files base => files.makeDirectories? base path
  print := print
  surroundings := fun w => (w.surroundings, w)
  now := pure ""
  runPairs := fun config pairs seed count w =>
    ((Harness.run Rehearsal.bench config pairs seed count (w.rehearsal config)).1, w)

end World

end Counterpart
