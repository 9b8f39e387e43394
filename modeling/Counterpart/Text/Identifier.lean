/-
Identifiers: a letter or an underscore, then letters, digits and underscores, all
of them ASCII.
-/
import Counterpart.Text.Numeral

namespace Counterpart.Text

/-- Whether a character may open an identifier. -/
def isIdentifierStart (c : Char) : Bool :=
  c == '_' || ('a'.toNat ≤ c.toNat && c.toNat ≤ 'z'.toNat) ||
    ('A'.toNat ≤ c.toNat && c.toNat ≤ 'Z'.toNat)

/-- Whether a character may stand inside an identifier. -/
def isIdentifierPart (c : Char) : Bool :=
  isIdentifierStart c || isDecimal c

/-- Whether the whole text is one identifier. -/
def isIdentifier : List Char → Bool
  | [] => false
  | c :: cs => isIdentifierStart c && cs.all isIdentifierPart

end Counterpart.Text
