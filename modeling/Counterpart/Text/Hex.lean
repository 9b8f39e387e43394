/-
Bytes as pairs of hexadecimal digits.
-/
import Counterpart.Text.Numeral

namespace Counterpart

/-- A string of bytes. -/
abbrev Bytes := List UInt8

namespace Text

/-- The two lower-case digits of a byte. -/
def hexByte (b : UInt8) : List Char :=
  padZeros 2 (hexadecimal b.toNat)

/-- Two digits for each byte, in order. -/
def hexBytes (bytes : Bytes) : List Char :=
  bytes.flatMap hexByte

/-- The bytes of consecutive pairs of characters, each pair a numeral in base
sixteen; the first of a pair may be a plus sign. -/
def hexPairs? : List Char → Option Bytes
  | [] => some []
  | [_] => none
  | a :: b :: rest => do
      let value ← natBelow? 256 16 [a, b]
      let bytes ← hexPairs? rest
      some (UInt8.ofNat value :: bytes)

end Text

end Counterpart
