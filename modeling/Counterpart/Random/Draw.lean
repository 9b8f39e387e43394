/-
Drawing numbers from a stream.  A number below a bound is the upper half of a draw
times the bound; draws whose lower half lies beyond a zone are discarded, so that all
numbers are equally likely.
-/
import Counterpart.Binary.Double
import Counterpart.Random.Stream

namespace Counterpart

/-- A computation that draws from a stream. -/
abbrev Draw := StateM Stream

namespace Draw

/-- A draw of thirty-two bits. -/
def word32 : Draw Nat := fun s =>
  let (word, s) := s.next
  (word.toNat, s)

/-- A draw of sixty-four bits, the low half first. -/
def word64 : Draw Nat := do
  let low ← word32
  let high ← word32
  pure (low + high * 2 ^ 32)

/-- A draw of eight bits. -/
def byte : Draw UInt8 := do
  pure (UInt8.ofNat (← word32))

/-- The least power of two times the bound that has the full width, less one. -/
def shiftZone (width bound : Nat) : Nat :=
  bound * 2 ^ (width - 1 - Nat.log2 bound) - 1

/-- The greatest multiple of the bound within the width, less one. -/
def multipleZone (width bound : Nat) : Nat :=
  2 ^ width - 1 - 2 ^ width % bound

/-- How many draws may be discarded in a row.  The zone holds at least half of all
draws, so the limit is never met by chance. -/
def patience : Nat := 1000

/-- A number below the bound, from draws of `width` bits; zero when patience ends. -/
def belowZone (draw : Draw Nat) (width zone bound : Nat) : Nat → Draw Nat
  | 0 => pure 0
  | fuel + 1 => do
      let product := (← draw) * bound
      if product % 2 ^ width ≤ zone then pure (product / 2 ^ width)
      else belowZone draw width zone bound fuel

/-- A number below a positive bound from draws of thirty-two bits. -/
def below32 (bound : Nat) : Draw Nat :=
  belowZone word32 32 (shiftZone 32 bound) bound patience

/-- A number below a positive bound from draws of sixty-four bits; the bound `2 ^ 64`
takes the draw as it is. -/
def below64 (bound : Nat) : Draw Nat :=
  if 2 ^ 64 ≤ bound then word64
  else belowZone word64 64 (shiftZone 64 bound) bound patience

/-- A byte between two others, both included. -/
def byteBetween (low high : Nat) : Draw UInt8 := do
  let bound := high - low + 1
  pure (UInt8.ofNat (low + (← belowZone word32 32 (multipleZone 32 bound) bound patience)))

/-- An integer between two others, both included; there is none if they are out of
order.  Over all integers of sixty-four bits the draw is read with its sign. -/
def between (low high : Int) : Draw (Option Int) :=
  if high < low then pure none
  else do
    let bound := (high - low + 1).toNat
    let n ← below64 bound
    pure (some (if 2 ^ 64 ≤ bound then (BitVec.ofNat 64 n).toInt else low + n))

/-- Whether an event of probability `num / den` happens, for a power of two `den`. -/
def chance (num den : Nat) : Draw Bool := do
  pure ((← word64) < num * 2 ^ 64 / den)

/-- A number from -1000 on and below 1000: a number between one and two, moved down
by one and stretched; the upper end itself is drawn again. -/
def thousand : Nat → Draw Double
  | 0 => pure Double.zero
  | fuel + 1 => do
      let fraction := (← word64) / 2 ^ 12
      let unit : Double := ⟨BitVec.ofNat 64 (0x3ff * 2 ^ 52 + fraction)⟩
      let x := ((unit.sub (Double.ofNat 1)).mul (Double.ofNat 2000)).sub (Double.ofNat 1000)
      if (Double.ofNat 1000).le x then thousand fuel else pure x

end Draw

end Counterpart
