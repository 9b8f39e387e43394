/-
Paths as texts.  A slash separates the parts of a path, and a path that opens with one
starts at the root.
-/
import Counterpart.Text.Lines

namespace Counterpart.Path

open Text

/-- The greatest number of bytes in a name. -/
def nameLimit : Nat := 255

/-- The least number of bytes that is too many for a path. -/
def lengthLimit : Nat := 4096

/-- Whether no character of a text is zero, which would end it early. -/
def isUnbroken (cs : List Char) : Bool :=
  cs.all (·.toNat != 0)

/-- Whether a file can have a name. -/
def isName (name : List Char) : Bool :=
  isUnbroken name && (String.ofList name).utf8ByteSize ≤ nameLimit

/-- Whether a path can be looked up at all. -/
def isUsable (path : String) : Bool :=
  !path.isEmpty && isUnbroken path.toList && path.utf8ByteSize < lengthLimit

/-- Whether the path starts at the root. -/
def isAbsolute (path : String) : Bool :=
  path.toList.head? == some '/'

/-- The path reached from `base`; an absolute path is reached from anywhere. -/
def join (base path : String) : String :=
  if isAbsolute path || base.isEmpty then path
  else if base.toList.getLast? = some '/' then base ++ path
  else base ++ "/" ++ path

/-- The parts between the slashes, without empty ones. -/
def parts (path : String) : List String :=
  ((pieces '/' path.toList).filter (!·.isEmpty)).map String.ofList

/-- The parts that lead somewhere: a point leads nowhere, except at the front of a
relative path. -/
def components (path : String) : List String :=
  match parts path with
  | [] => []
  | first :: rest =>
      let rest := rest.filter (· != ".")
      if first = "." && isAbsolute path then rest else first :: rest

/-- The last part, if it names something. -/
def fileName? (path : String) : Option String :=
  ((components path).getLast?).filter fun part => part != "." && part != ".."

/-- The path of what holds the last part. -/
def parent? (path : String) : Option String :=
  match components path with
  | [] => none
  | found => some ((if isAbsolute path then "/" else "") ++ String.intercalate "/" found.dropLast)

/-- The part of a file name behind its last point; a point at the front opens none. -/
def extension? (path : String) : Option String :=
  (fileName? path).bind fun name =>
    match (pieces '.' name.toList).reverse with
    | last :: before@(_ :: _) =>
        if before = [[]] then none else some (String.ofList last)
    | _ => none

/-- An ASCII letter in lower case. -/
def lowerLetter (c : Char) : Char :=
  if 'A'.toNat ≤ c.toNat ∧ c.toNat ≤ 'Z'.toNat then Char.ofNat (c.toNat + 32) else c

/-- Whether the extension of the path says that it holds JSON. -/
def isJson (path : String) : Bool :=
  (extension? path).any fun e => e.toList.map lowerLetter == "json".toList

end Counterpart.Path
