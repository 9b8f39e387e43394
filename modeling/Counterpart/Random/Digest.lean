/-
The SHA-256 digest of a string of bytes.
-/
import Counterpart.Text.Hex

namespace Counterpart.Digest

/-- The eight words a digest starts from. -/
def initial : List UInt32 :=
  [0x6a09e667, 0xbb67ae85, 0x3c6ef372, 0xa54ff53a, 0x510e527f, 0x9b05688c, 0x1f83d9ab,
    0x5be0cd19]

/-- One word for each of the sixty-four rounds. -/
def roundWords : List UInt32 :=
  [0x428a2f98, 0x71374491, 0xb5c0fbcf, 0xe9b5dba5, 0x3956c25b, 0x59f111f1, 0x923f82a4,
    0xab1c5ed5, 0xd807aa98, 0x12835b01, 0x243185be, 0x550c7dc3, 0x72be5d74, 0x80deb1fe,
    0x9bdc06a7, 0xc19bf174, 0xe49b69c1, 0xefbe4786, 0x0fc19dc6, 0x240ca1cc, 0x2de92c6f,
    0x4a7484aa, 0x5cb0a9dc, 0x76f988da, 0x983e5152, 0xa831c66d, 0xb00327c8, 0xbf597fc7,
    0xc6e00bf3, 0xd5a79147, 0x06ca6351, 0x14292967, 0x27b70a85, 0x2e1b2138, 0x4d2c6dfc,
    0x53380d13, 0x650a7354, 0x766a0abb, 0x81c2c92e, 0x92722c85, 0xa2bfe8a1, 0xa81a664b,
    0xc24b8b70, 0xc76c51a3, 0xd192e819, 0xd6990624, 0xf40e3585, 0x106aa070, 0x19a4c116,
    0x1e376c08, 0x2748774c, 0x34b0bcb5, 0x391c0cb3, 0x4ed8aa4a, 0x5b9cca4f, 0x682e6ff3,
    0x748f82ee, 0x78a5636f, 0x84c87814, 0x8cc70208, 0x90befffa, 0xa4506ceb, 0xbef9a3f7,
    0xc67178f2]

/-- The word with its bits turned right. -/
def rotateRight (x : UInt32) (n : UInt32) : UInt32 :=
  (x >>> n) ||| (x <<< (32 - n))

/-- The bytes of the message with a one bit, zeros and its length in bits behind them,
so that sixty-four bytes divide their number. -/
def padded (message : Bytes) : Bytes :=
  let zeros := (119 - message.length % 64) % 64
  let bits := 8 * message.length
  message ++ 0x80 :: List.replicate zeros 0 ++
    (List.range 8).map fun i => UInt8.ofNat (bits / 256 ^ (7 - i) % 256)

/-- The words of bytes, the high byte of each word first. -/
def bigEndianWords : Bytes → List UInt32
  | a :: b :: c :: d :: rest =>
      (a.toUInt32 <<< 24 ||| b.toUInt32 <<< 16 ||| c.toUInt32 <<< 8 ||| d.toUInt32) ::
        bigEndianWords rest
  | _ => []

/-- The bytes of a word, the high byte first. -/
def bigEndianBytes (x : UInt32) : Bytes :=
  [(x >>> 24).toUInt8, (x >>> 16).toUInt8, (x >>> 8).toUInt8, x.toUInt8]

/-- Extends the latest words of the schedule, newest first, by `count` words. -/
def extend : Nat → List UInt32 → List UInt32
  | 0, words => words
  | count + 1, words =>
      let at_ (i : Nat) : UInt32 := words.getD (i - 1) 0
      let a := at_ 15
      let b := at_ 2
      let s₀ := rotateRight a 7 ^^^ rotateRight a 18 ^^^ (a >>> 3)
      let s₁ := rotateRight b 17 ^^^ rotateRight b 19 ^^^ (b >>> 10)
      extend count ((at_ 16 + s₀ + at_ 7 + s₁) :: words)

/-- The sixty-four words of the schedule of a block. -/
def schedule (block : List UInt32) : List UInt32 :=
  (extend 48 block.reverse).reverse

/-- The eight working words. -/
structure Working where
  a : UInt32
  b : UInt32
  c : UInt32
  d : UInt32
  e : UInt32
  f : UInt32
  g : UInt32
  h : UInt32

/-- One round with its round word and its schedule word. -/
def Working.step (w : Working) (k x : UInt32) : Working :=
  let s₁ := rotateRight w.e 6 ^^^ rotateRight w.e 11 ^^^ rotateRight w.e 25
  let choice := (w.e &&& w.f) ^^^ ((~~~ w.e) &&& w.g)
  let t₁ := w.h + s₁ + choice + k + x
  let s₀ := rotateRight w.a 2 ^^^ rotateRight w.a 13 ^^^ rotateRight w.a 22
  let majority := (w.a &&& w.b) ^^^ (w.a &&& w.c) ^^^ (w.b &&& w.c)
  ⟨t₁ + (s₀ + majority), w.a, w.b, w.c, w.d + t₁, w.e, w.f, w.g⟩

def Working.ofList (words : List UInt32) : Working :=
  let at_ (i : Nat) : UInt32 := words.getD i 0
  ⟨at_ 0, at_ 1, at_ 2, at_ 3, at_ 4, at_ 5, at_ 6, at_ 7⟩

def Working.toList (w : Working) : List UInt32 :=
  [w.a, w.b, w.c, w.d, w.e, w.f, w.g, w.h]

/-- The digest words after one more block. -/
def compress (words block : List UInt32) : List UInt32 :=
  let final := (roundWords.zip (schedule block)).foldl
    (fun w (k, x) => w.step k x) (Working.ofList words)
  List.zipWith (· + ·) words final.toList

/-- The digest words after all blocks. -/
def compressAll : Nat → List UInt32 → List UInt32 → List UInt32
  | 0, words, _ => words
  | blocks + 1, words, rest => compressAll blocks (compress words (rest.take 16)) (rest.drop 16)

/-- The thirty-two bytes of the digest. -/
def sha256 (message : Bytes) : Bytes :=
  let words := bigEndianWords (padded message)
  (compressAll (words.length / 16) initial words).flatMap bigEndianBytes

end Counterpart.Digest
