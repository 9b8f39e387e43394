/-
A text between double quotes, written so that every character of it can be seen.
-/
import Counterpart.Text.Numeral
import Counterpart.Text.Property

namespace Counterpart.Text

/-- How a character is written between quotes. -/
def quotedChar (c : Char) : List Char :=
  if c = '"' then ['\\', '"']
  else if c = '\\' then ['\\', '\\']
  else if c = '\n' then ['\\', 'n']
  else if c = '\r' then ['\\', 'r']
  else if c = '\t' then ['\\', 't']
  else if c.toNat = 0 then ['\\', '0']
  else if isGraphemeExtend c || !isVisible c then
    "\\u\x7b".toList ++ hexadecimal c.toNat ++ ['\x7d']
  else [c]

/-- The text between quotes. -/
def quoted (cs : List Char) : List Char :=
  '"' :: cs.flatMap quotedChar ++ ['"']

end Counterpart.Text
