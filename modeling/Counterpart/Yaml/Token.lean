/-
The tokens of a YAML text, and places in it.  Line ends are brought to one form before
anything else is read.
-/
import Counterpart.Text.Numeral

namespace Counterpart.Yaml

/-- A token.  Indentation shows as the opening and closing of block collections. -/
inductive Token where
  | documentStart
  | documentEnd
  | blockSequence
  | blockMapping
  | blockEnd
  | flowSequence
  | flowSequenceEnd
  | flowMapping
  | flowMappingEnd
  /-- The dash of a block sequence. -/
  | entry
  | comma
  | key
  | value
  /-- A scalar; a plain one has no quotes around it. -/
  | scalar (text : String) (plain : Bool)
  deriving DecidableEq, Repr

/-- A place in the text. -/
structure Place where
  /-- The number of bytes in front of it. -/
  index : Nat
  line : Nat
  column : Nat
  deriving DecidableEq, Repr

/-- Whether a character ends a line. -/
def isBreak (c : Char) : Bool :=
  c == '\n' || c.toNat == 0x2028 || c.toNat == 0x2029

/-- Whether a character separates words in a line. -/
def isSpace (c : Char) : Bool :=
  c == ' ' || c == '\t'

/-- Whether the text ends here or a blank follows. -/
def atGap : List Char → Bool
  | [] => true
  | c :: _ => isSpace c || isBreak c

/-- The place behind a character. -/
def Place.after (p : Place) (c : Char) : Place :=
  if isBreak c then ⟨p.index + c.utf8Size, p.line + 1, 0⟩
  else ⟨p.index + c.utf8Size, p.line, p.column + 1⟩

/-- The place behind `n` characters of one byte each. -/
def Place.right (p : Place) (n : Nat) : Place :=
  ⟨p.index + n, p.line, p.column + n⟩

/-- Whether a character is the byte order mark. -/
def isOrderMark (c : Char) : Bool := c.toNat == 0xFEFF

/-- The mark of a document at the start of a line: three dashes or three points. -/
def marker? (p : Place) : List Char → Option Token
  | a :: b :: c :: rest =>
      if p.column = 0 ∧ a = b ∧ b = c ∧ atGap rest then
        if a = '-' then some .documentStart else if a = '.' then some .documentEnd else none
      else none
  | _ => none

/-- Whether a character may stand in a text at all. -/
def isPermitted (c : Char) : Bool :=
  let n := c.toNat
  n == 0x09 || n == 0x0A || n == 0x0D || (0x20 ≤ n && n ≤ 0x7E) || n == 0x85 ||
    (0xA0 ≤ n && n ≤ 0xD7FF) || (0xE000 ≤ n && n ≤ 0xFFFD) || 0x10000 ≤ n

/-- The text with every line end in one form. -/
def unifyBreaks : List Char → List Char
  | '\r' :: '\n' :: rest => '\n' :: unifyBreaks rest
  | c :: rest => (if c = '\r' ∨ c.toNat = 0x85 then '\n' else c) :: unifyBreaks rest
  | [] => []

/-- The text as it is read; a text with other characters is not read. -/
def prepare? (cs : List Char) : Option (List Char) :=
  if cs.all isPermitted then some (unifyBreaks cs) else none

end Counterpart.Yaml
