/-
A tree of files and directories.  Every entry is known by the names that lead to it from
the root; the root itself is always there.
-/
import Counterpart.History.Database
import Counterpart.Path

namespace Counterpart

/-- The names that lead to a place from the root. -/
abbrev Location := List String

/-- What is found at a place. -/
inductive FileEntry where
  | directory
  | file (content : Bytes)
  /-- A file that holds a database; its bytes are not text. -/
  | database (d : Database)
  deriving DecidableEq, Repr

/-- A tree, as what is found at the places below the root. -/
structure FileTree where
  entries : List (Location × FileEntry)
  deriving Repr

namespace FileTree

/-- The tree with nothing in it. -/
def empty : FileTree := ⟨[]⟩

/-- What is found at a place. -/
def at? (tree : FileTree) (place : Location) : Option FileEntry :=
  if place.isEmpty then some .directory else tree.entries.lookup place

/-- Whether there is a file of any kind at a place. -/
def isFileAt (tree : FileTree) (place : Location) : Bool :=
  match tree.at? place with
  | some (.file _) | some (.database _) => true
  | _ => false

/-- The tree with something put at a place. -/
def put (tree : FileTree) (place : Location) (entry : FileEntry) : FileTree :=
  ⟨(place, entry) :: tree.entries⟩

/-- Whether a place is a directory. -/
def isDirectoryAt (tree : FileTree) (place : Location) : Bool :=
  tree.at? place == some .directory

/-- The place reached by further parts of a path; every part must be taken in a directory,
and what it names must be there. -/
def follow (tree : FileTree) : Location → List (List Char) → Option Location
  | place, [] => some place
  | place, part :: parts =>
      if !tree.isDirectoryAt place then none
      else if part.isEmpty ∨ part = ['.'] then tree.follow place parts
      else if part = ['.', '.'] then tree.follow place.dropLast parts
      else
        let next := place ++ [String.ofList part]
        if (tree.at? next).isSome then tree.follow next parts else none

/-- The place a path starts from, seen from a directory. -/
def origin (base : Location) (path : String) : Location :=
  if Path.isAbsolute path then [] else base

/-- The place a path leads to from a directory. -/
def resolve? (tree : FileTree) (base : Location) (path : String) : Option Location :=
  if path.isEmpty then none
  else tree.follow (origin base path) (Text.pieces '/' path.toList)

/-- The place a path leads to, if the path can be looked up as a whole. -/
def lookUp? (tree : FileTree) (base : Location) (path : String) : Option Location :=
  if Path.isUsable path then tree.resolve? base path else none

/-- Whether a path leads to a file. -/
def isFile (tree : FileTree) (base : Location) (path : String) : Bool :=
  (tree.lookUp? base path).any tree.isFileAt

/-- Whether a path leads to a directory. -/
def isDirectory (tree : FileTree) (base : Location) (path : String) : Bool :=
  (tree.lookUp? base path).any tree.isDirectoryAt

/-- The content of the file a path leads to; that of a database is none. -/
def read? (tree : FileTree) (base : Location) (path : String) : Option Bytes :=
  match (tree.lookUp? base path).bind tree.at? with
  | some (.file content) => some content
  | _ => none

/-- Whether a place is free for a file of its name, in a directory. -/
def isFree (tree : FileTree) (place : Location) : Bool :=
  !place.isEmpty && tree.isDirectoryAt place.dropLast && (tree.at? place).isNone

/-- The place a file can be written to: that of a file which is there, or a new name in a
directory. -/
def writable? (tree : FileTree) (base : Location) (path : String) : Option Location :=
  if !Path.isUsable path then none
  else match tree.resolve? base path with
    | some place => if tree.isDirectoryAt place then none else some place
    | none =>
        let parts := Text.pieces '/' path.toList
        match parts.getLast? with
        | some last =>
            if last.isEmpty ∨ last = ['.'] ∨ last = ['.', '.'] ∨ !Path.isName last then none
            else match tree.follow (origin base path) parts.dropLast with
              | some place =>
                  let target := place ++ [String.ofList last]
                  if tree.isFree target then some target else none
              | none => none
        | none => none

/-- The tree with a file written, if its place can hold one. -/
def write? (tree : FileTree) (base : Location) (path : String) (content : Bytes) :
    Option FileTree :=
  (tree.writable? base path).map fun place => tree.put place (.file content)

/-- The tree with the directories of further parts of a path. -/
def makeFrom (tree : FileTree) : Location → List (List Char) → Option FileTree
  | place, [] => if tree.isDirectoryAt place then some tree else none
  | place, part :: parts =>
      if !tree.isDirectoryAt place then none
      else if part.isEmpty ∨ part = ['.'] then tree.makeFrom place parts
      else if part = ['.', '.'] then tree.makeFrom place.dropLast parts
      else
        let next := place ++ [String.ofList part]
        match tree.at? next with
        | some _ => tree.makeFrom next parts
        | none =>
            if Path.isName part then (tree.put next .directory).makeFrom next parts else none

/-- The tree with every directory on a path. -/
def makeDirectories? (tree : FileTree) (base : Location) (path : String) : Option FileTree :=
  if path.isEmpty then some tree
  else if !Path.isUsable path then none
  else tree.makeFrom (origin base path) (Text.pieces '/' path.toList)

/-- The place reached when two points take back the part in front of them whether that is
there or not.  A file has no further parts. -/
def shorten (tree : FileTree) : Location → List (List Char) → Option Location
  | place, [] => some place
  | place, part :: parts =>
      if part.isEmpty ∨ part = ['.'] then tree.shorten place parts
      else if part = ['.', '.'] then tree.shorten place.dropLast parts
      else if tree.isFileAt place || !Path.isName part then none
      else tree.shorten (place ++ [String.ofList part]) parts

/-- The place that the path of a database means. -/
def databasePlace? (tree : FileTree) (base : Location) (path : String) : Option Location :=
  tree.shorten (origin base path) (Text.pieces '/' path.toList)

/-- The database at the path of one, if anything is there.  A file of at most one byte
counts as a database that was never used. -/
def readDatabase (tree : FileTree) (base : Location) (path : String) :
    Except HistoryError (Option Database) :=
  match tree.databasePlace? base path with
  | none => .error .damaged
  | some place =>
      match tree.at? place with
      | some (.database d) => .ok (some d)
      | some (.file content) => if content.length ≤ 1 then .ok (some .fresh) else .error .damaged
      | some .directory => .error .damaged
      | none => if tree.isFree place then .ok none else .error .damaged

/-- The tree with a database kept at the path of one, if its place can hold it. -/
def writeDatabase? (tree : FileTree) (base : Location) (path : String) (d : Database) :
    Option FileTree :=
  (tree.databasePlace? base path).bind fun place =>
    if tree.isFileAt place || tree.isFree place then some (tree.put place (.database d)) else none

/-- The path of a place. -/
def pathOf (place : Location) : String :=
  "/" ++ String.intercalate "/" place

end FileTree

end Counterpart
