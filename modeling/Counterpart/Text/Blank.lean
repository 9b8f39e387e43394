/-
Blank characters and the text operations that rest on them.  A character is
blank when it has the White_Space property; the property has no other members.
-/

namespace Counterpart.Text

/-- The characters with the White_Space property. -/
def isBlank (c : Char) : Bool :=
  let n := c.toNat
  (0x09 ≤ n && n ≤ 0x0D) || n == 0x20 || n == 0x85 || n == 0xA0 || n == 0x1680 ||
    (0x2000 ≤ n && n ≤ 0x200A) || n == 0x2028 || n == 0x2029 || n == 0x202F || n == 0x205F ||
    n == 0x3000

/-- The text without the blanks in front of it. -/
def trimStart (cs : List Char) : List Char :=
  cs.dropWhile isBlank

/-- The text without the blanks behind it. -/
def trimEnd (cs : List Char) : List Char :=
  (cs.reverse.dropWhile isBlank).reverse

/-- The text without the blanks around it. -/
def trim (cs : List Char) : List Char :=
  trimEnd (trimStart cs)

/-- One step of `words`, from the right: a blank closes the word to its right. -/
def consWord (c : Char) : List Char × List (List Char) → List Char × List (List Char)
  | (current, done) =>
      if isBlank c then ([], if current.isEmpty then done else current :: done)
      else (c :: current, done)

/-- The maximal runs of characters that are not blank. -/
def words (cs : List Char) : List (List Char) :=
  match cs.foldr consWord ([], []) with
  | (current, done) => if current.isEmpty then done else current :: done

/-- The pieces of a text behind those that are closed and behind what is read of the next one,
all of which stand backwards. -/
def piecesFrom (mark : Char) (closed : List (List Char)) (piece : List Char) :
    List Char → List (List Char)
  | [] => (piece.reverse :: closed).reverse
  | c :: cs =>
      if c = mark then piecesFrom mark (piece.reverse :: closed) [] cs
      else piecesFrom mark closed (c :: piece) cs

/-- The pieces between the occurrences of `mark`, of which there is always one
more than there are marks. -/
def pieces (mark : Char) (cs : List Char) : List (List Char) :=
  piecesFrom mark [] [] cs

end Counterpart.Text
