/-
The stream of random words: ChaCha with eight rounds, a sixty-four-bit block counter
that starts at zero, and a nonce of zeros.
-/
import Counterpart.Text.Hex

namespace Counterpart

/-- A stream of words that comes in blocks. -/
structure Stream where
  /-- The block of each counter. -/
  block : Nat → List UInt32
  /-- The counter of the block after those begun. -/
  counter : Nat
  /-- The words left of the last block begun. -/
  buffer : List UInt32

namespace Stream

/-- The next word; an empty block counts as a zero. -/
def next (s : Stream) : UInt32 × Stream :=
  match s.buffer with
  | word :: rest => (word, { s with buffer := rest })
  | [] =>
      match s.block s.counter with
      | word :: rest => (word, { s with counter := s.counter + 1, buffer := rest })
      | [] => (0, { s with counter := s.counter + 1 })

end Stream

namespace ChaCha

/-- The word with its bits turned left. -/
def rotateLeft (x : UInt32) (n : UInt32) : UInt32 :=
  (x <<< n) ||| (x >>> (32 - n))

/-- Mixes four words. -/
def quarter (a b c d : UInt32) : UInt32 × UInt32 × UInt32 × UInt32 :=
  let a := a + b
  let d := rotateLeft (d ^^^ a) 16
  let c := c + d
  let b := rotateLeft (b ^^^ c) 12
  let a := a + b
  let d := rotateLeft (d ^^^ a) 8
  let c := c + d
  let b := rotateLeft (b ^^^ c) 7
  (a, b, c, d)

/-- Mixes the words at four places of the state. -/
def mix (s : Vector UInt32 16) (i j k l : Fin 16) : Vector UInt32 16 :=
  let (a, b, c, d) := quarter s[i] s[j] s[k] s[l]
  (((s.set i a).set j b).set k c).set l d

/-- Two rounds: along the columns and along the diagonals. -/
def doubleRound (s : Vector UInt32 16) : Vector UInt32 16 :=
  let s := mix s 0 4 8 12
  let s := mix s 1 5 9 13
  let s := mix s 2 6 10 14
  let s := mix s 3 7 11 15
  let s := mix s 0 5 10 15
  let s := mix s 1 6 11 12
  let s := mix s 2 7 8 13
  mix s 3 4 9 14

/-- The word of four bytes, the low byte first. -/
def littleEndian (bytes : Bytes) : UInt32 :=
  bytes.foldr (fun b acc => acc <<< 8 ||| b.toUInt32) 0

/-- The state of a key and a counter. -/
def start (key : Bytes) (counter : Nat) : Vector UInt32 16 :=
  Vector.ofFn fun i =>
    match i.val with
    | 0 => 0x61707865
    | 1 => 0x3320646e
    | 2 => 0x79622d32
    | 3 => 0x6b206574
    | 12 => UInt32.ofNat counter
    | 13 => UInt32.ofNat (counter / 2 ^ 32)
    | 14 => 0
    | 15 => 0
    | n => littleEndian ((key.drop (4 * (n - 4))).take 4)

/-- The sixteen words of a block. -/
def block (key : Bytes) (counter : Nat) : List UInt32 :=
  let s := start key counter
  let mixed := doubleRound (doubleRound (doubleRound (doubleRound s)))
  (Vector.zipWith (· + ·) mixed s).toList

/-- The stream of a key of thirty-two bytes. -/
def stream (key : Bytes) : Stream :=
  { block := block key, counter := 0, buffer := [] }

end ChaCha

end Counterpart
