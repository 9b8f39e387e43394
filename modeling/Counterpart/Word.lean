/-
Sixty-four-bit words seen as strings of bytes: concatenation, extraction and
the two extensions.  Every width is counted in bytes, and an operation is
defined exactly where its widths fit into one word.
-/

namespace Counterpart

/-- A sixty-four-bit pattern. -/
abbrev Word := BitVec 64

/-- Why an operation on the bytes of a word has no result. -/
inductive WidthError where
  | invalidWidth (width : Nat)
  | widthOverflow (total : Nat)
  | offsetOutOfRange (source offset result : Nat)
  | notWidening (source target : Nat)
  deriving DecidableEq, Repr

/-- The sentence shown for a width error. -/
def WidthError.message : WidthError → String
  | .invalidWidth width => s!"width {width} is outside 1..=8 bytes"
  | .widthOverflow total => s!"combined width {total} exceeds 8 bytes"
  | .offsetOutOfRange source offset result =>
      s!"offset {offset} out of range for extracting {result} bytes from {source}"
  | .notWidening source target => s!"cannot extend from {source} to {target} bytes"

namespace Word

/-- The pattern with the low `width` bytes set; eight or more set them all. -/
def mask (width : Nat) : Word :=
  BitVec.allOnes 64 >>> (64 - 8 * width)

/-- The least of 1, 2, 4 and 8 that holds `width` bytes. -/
def containerWidth (width : Nat) : Nat :=
  if width ≤ 1 then 1 else if width ≤ 2 then 2 else if width ≤ 4 then 4 else 8

/-- A width is usable when it lies between one byte and a whole word. -/
def checkWidth (width : Nat) : Except WidthError Unit :=
  if 1 ≤ width ∧ width ≤ 8 then .ok () else .error (.invalidWidth width)

/-- The low bytes of `high` on top of the low bytes of `low`. -/
def concat (high : Word) (highWidth : Nat) (low : Word) (lowWidth : Nat) :
    Except WidthError Word := do
  checkWidth highWidth
  checkWidth lowWidth
  if 8 < highWidth + lowWidth then .error (.widthOverflow (highWidth + lowWidth))
  else .ok ((high.setWidth (8 * highWidth) ++ low.setWidth (8 * lowWidth)).setWidth 64)

/-- The `result` bytes of a `source`-byte value that start `offset` bytes above
its low end. -/
def extract (value : Word) (source offset result : Nat) : Except WidthError Word := do
  checkWidth source
  checkWidth result
  if source < offset + result then .error (.offsetOutOfRange source offset result)
  else .ok ((value.extractLsb' (8 * offset) (8 * result)).setWidth 64)

/-- The low `width` bytes with zeros above them. -/
def zeroExtend (value : Word) (width : Nat) : Except WidthError Word := do
  checkWidth width
  .ok ((value.setWidth (8 * width)).setWidth 64)

/-- The low `source` bytes widened to `target` bytes by repeating their top bit,
with zeros above. -/
def signExtend (value : Word) (source target : Nat) : Except WidthError Word := do
  checkWidth source
  checkWidth target
  if target < source then .error (.notWidening source target)
  else .ok (((value.setWidth (8 * source)).signExtend (8 * target)).setWidth 64)

end Word

end Counterpart
