/-
Writing JSON: a compact form without spaces, and a laid-out form with two spaces for
each level.
-/
import Counterpart.Binary.Shortest
import Counterpart.Json.Basic
import Counterpart.Text.Hex
import Counterpart.Text.Lines

namespace Counterpart.Json

open Text

/-- Numbers are written with the fewest digits that read back, and with an exponent
from `1e16` on and below `1e-5`. -/
def layout : Binary.Layout :=
  { tie := .toEven, leastPositional := -5, greatestPositional := 15, plusSign := true,
    nan := "null", infinity := "null" }

/-- The text of a number; what is not finite has none of its own. -/
def numberText (x : Double) : List Char :=
  match x.datum with
  | .finite _ _ _ => layout.text Binary.double x.bits.toNat
  | _ => "null".toList

/-- How a character stands between quotes.  Only quotes, backslashes and control
characters are escaped. -/
def escapeChar (c : Char) : List Char :=
  if c = '"' then ['\\', '"']
  else if c = '\\' then ['\\', '\\']
  else if c = '\n' then ['\\', 'n']
  else if c = '\r' then ['\\', 'r']
  else if c = '\t' then ['\\', 't']
  else if c.toNat = 8 then ['\\', 'b']
  else if c.toNat = 12 then ['\\', 'f']
  else if c.toNat < 32 then ['\\', 'u'] ++ padZeros 4 (hexadecimal c.toNat)
  else [c]

/-- A text between quotes. -/
def stringText (s : String) : List Char :=
  '"' :: s.toList.flatMap escapeChar ++ ['"']

/-- The opening brace. -/
def openBrace : Char := '\x7b'

/-- The closing brace. -/
def closeBrace : Char := '\x7d'

mutual

/-- The compact form. -/
def compact : Json → List Char
  | null => "null".toList
  | bool b => if b then "true".toList else "false".toList
  | int i => integer i
  | float x => numberText x
  | string s => stringText s
  | array items => '[' :: compactItems items ++ [']']
  | object members => openBrace :: compactMembers members ++ [closeBrace]
  | unreadable => "null".toList

def compactItems : List Json → List Char
  | [] => []
  | [item] => compact item
  | item :: items => compact item ++ ',' :: compactItems items

def compactMembers : List (String × Json) → List Char
  | [] => []
  | [(name, value)] => stringText name ++ ':' :: compact value
  | (name, value) :: members =>
      stringText name ++ ':' :: (compact value ++ ',' :: compactMembers members)

end

/-- A new line indented to a level. -/
def newLine (level : Nat) : List Char :=
  '\n' :: List.replicate (2 * level) ' '

mutual

/-- The laid-out form at a level. -/
def prettyAt (level : Nat) : Json → List Char
  | array [] => ['[', ']']
  | array items =>
      '[' :: prettyItems (level + 1) items ++ newLine level ++ [']']
  | object [] => [openBrace, closeBrace]
  | object members =>
      openBrace :: prettyMembers (level + 1) members ++ newLine level ++ [closeBrace]
  | value => compact value

def prettyItems (level : Nat) : List Json → List Char
  | [] => []
  | [item] => newLine level ++ prettyAt level item
  | item :: items => newLine level ++ prettyAt level item ++ ',' :: prettyItems level items

def prettyMembers (level : Nat) : List (String × Json) → List Char
  | [] => []
  | [(name, value)] => newLine level ++ stringText name ++ ": ".toList ++ prettyAt level value
  | (name, value) :: members =>
      newLine level ++ stringText name ++ ": ".toList ++ prettyAt level value ++
        ',' :: prettyMembers level members

end

/-- The laid-out form. -/
def pretty (value : Json) : List Char :=
  value.prettyAt 0

end Counterpart.Json
