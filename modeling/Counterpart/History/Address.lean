/-
The address of a database.  An address is a path, or a locator that opens with a scheme:
a path with escapes in it and with settings behind a question mark.
-/
import Counterpart.Text.Lines
import Counterpart.Text.Utf8

namespace Counterpart

/-- What a database is opened for. -/
inductive DatabaseAccess where
  /-- It must be there and is only read. -/
  | reading
  /-- It must be there. -/
  | writing
  /-- It is made if it is not there. -/
  | creating
  /-- It is kept only while it is open. -/
  | passing
  deriving DecidableEq, Repr

/-- Where a database is kept and what it is opened for. -/
structure DatabaseAddress where
  /-- None for a database that is kept only while it is open. -/
  path : Option String
  access : DatabaseAccess
  deriving DecidableEq, Repr

namespace DatabaseAccess

/-- The access that a setting names. -/
def ofLabel? : String → Option DatabaseAccess
  | "ro" => some reading
  | "rw" => some writing
  | "rwc" => some creating
  | "memory" => some passing
  | _ => none

/-- How much an access permits. -/
def rank : DatabaseAccess → Nat
  | reading => 1
  | writing => 2
  | creating => 3
  | passing => 4

/-- Whether a setting may turn one access into another: it may not ask for more, but any
database may be kept only while it is open. -/
def mayBecome (present asked : DatabaseAccess) : Bool :=
  asked == passing || asked.rank ≤ present.rank

end DatabaseAccess

namespace DatabaseAddress

open Text

/-- The path that stands for a database which is kept only while it is open. -/
def memoryName : String := ":memory:"

/-- The scheme of a locator. -/
def scheme : List Char := "file:".toList

/-- The database that is kept at a path. -/
def atPath (path : String) (access : DatabaseAccess) : DatabaseAddress :=
  if path.isEmpty || path == memoryName || access == .passing then ⟨none, access⟩
  else ⟨some path, access⟩

/-- The bytes of a part of a locator.  A percent sign with two digits stands for a byte, and
the byte zero ends the part. -/
def unescape : List Char → Bytes
  | '%' :: a :: b :: rest =>
      match digits? 16 [a, b] with
      | some 0 => []
      | some n => UInt8.ofNat n :: unescape rest
      | none => utf8 ['%'] ++ unescape (a :: b :: rest)
  | c :: rest => utf8 [c] ++ unescape rest
  | [] => []

/-- The text of a part of a locator. -/
def part (cs : List Char) : String :=
  String.ofList (lossy (unescape cs))

/-- What follows the host of a locator; the host is empty or this machine. -/
def behindHost? : List Char → Option (List Char)
  | '/' :: '/' :: rest =>
      let host := rest.takeWhile (· ≠ '/')
      if host.isEmpty ∨ host = "localhost".toList then some (rest.dropWhile (· ≠ '/')) else none
  | cs => some cs

/-- A setting, as its name and its value. -/
def setting (cs : List Char) : String × String :=
  (part (cs.takeWhile (· ≠ '=')), part ((cs.dropWhile (· ≠ '=')).drop 1))

/-- The settings of a locator.  A setting without a name says nothing. -/
def settings (cs : List Char) : List (String × String) :=
  ((pieces '&' cs).map setting).filter (!·.1.isEmpty)

/-- The access after further settings, if every setting of it can be met. -/
def accessAfter? : DatabaseAccess → List (String × String) → Option DatabaseAccess
  | access, [] => some access
  | access, ("mode", value) :: rest =>
      match DatabaseAccess.ofLabel? value with
      | some asked => if access.mayBecome asked then accessAfter? asked rest else none
      | none => none
  | access, ("cache", value) :: rest =>
      if value = "shared" ∨ value = "private" then accessAfter? access rest else none
  | access, _ :: rest => accessAfter? access rest

/-- The kinds of files that a database may be kept in. -/
def fileKinds : List String := ["unix", "unix-none", "unix-dotfile", "unix-excl"]

/-- The kind that keeps a database only while it is open. -/
def memoryKind : String := "memdb"

/-- Whether a value switches a setting on. -/
def isOn (value : String) : Bool :=
  let digits := value.toList.takeWhile isDecimal
  if digits.isEmpty then
    ["on", "yes", "true"].contains (String.ofList (value.toList.map Char.toLower))
  else (((digits? 10 digits).filter (· < 2 ^ 31)).getD 0) % 256 ≠ 0

/-- The address of a path with settings.  A file that never changes is only read. -/
def withSettings? (path : String) (given : List (String × String)) : Option DatabaseAddress := do
  let access ← accessAfter? .creating given
  let kind := (given.reverse.lookup "vfs").getD "unix"
  if kind = memoryKind then some ⟨none, access⟩
  else if !fileKinds.contains kind then none
  else
    let address := atPath path access
    if address.path.isSome ∧ (given.lookup "immutable").any isOn then
      some { address with access := .reading }
    else some address

/-- The address that a text gives. -/
def ofText? (text : String) : Option DatabaseAddress :=
  match dropFront? scheme text.toList with
  | none => some (atPath text .creating)
  | some body => do
      let body ← behindHost? body
      let body := body.takeWhile (· ≠ '#')
      let query := (body.dropWhile (· ≠ '?')).drop 1
      withSettings? (part (body.takeWhile (· ≠ '?'))) (settings query)

/-- Whether the database can be changed. -/
def isWritable (address : DatabaseAddress) : Bool :=
  address.access != .reading

end DatabaseAddress

end Counterpart
