/-
Reading decimal numerals with a point and an exponent.
-/
import Counterpart.Binary.Double
import Counterpart.Text.Numeral

namespace Counterpart.Double

open Text

/-- Whether a character opens an exponent. -/
def opensExponent (c : Char) : Bool :=
  c == 'e' || c == 'E'

/-- The exponent behind a significand, zero if there is none. -/
def exponent? : List Char → Option Int
  | [] => some 0
  | _ :: '-' :: digits => (digits? 10 digits).map fun n => -(n : Int)
  | _ :: '+' :: digits => (digits? 10 digits).map Int.ofNat
  | _ :: digits => (digits? 10 digits).map Int.ofNat

/-- Beyond this order a decimal is out of reach of the format, on either side. -/
def orderLimit : Int := 400

/-- The number nearest to `digits · 10 ^ exponent`, if it is finite. -/
def ofScientific? (negative : Bool) (digits : Nat) (exponent : Int) : Option Double :=
  let order := exponent + (decimal digits).length
  if digits = 0 ∨ order < -orderLimit then some (ofRatio negative 0 1)
  else if orderLimit < order then none
  else
    let x := ofDecimal negative digits exponent
    if x.isInfinite then none else some x

/-- The finite number of a numeral without a sign. -/
def ofUnsigned? (negative : Bool) (cs : List Char) : Option Double := do
  let significand := cs.takeWhile (!opensExponent ·)
  let exponent ← exponent? (cs.dropWhile (!opensExponent ·))
  let whole := significand.takeWhile (· ≠ '.')
  let fraction := (significand.dropWhile (· ≠ '.')).drop 1
  let digits ← digits? 10 (whole ++ fraction)
  ofScientific? negative digits (exponent - fraction.length)

/-- The finite number of a numeral: an optional sign, digits with at most one point among
or beside them, and an optional exponent. -/
def ofNumeral? : List Char → Option Double
  | '-' :: cs => ofUnsigned? true cs
  | '+' :: cs => ofUnsigned? false cs
  | cs => ofUnsigned? false cs

end Counterpart.Double
