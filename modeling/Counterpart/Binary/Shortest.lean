/-
The shortest decimal text that reads back as the same floating-point number.

For one digit, two digits and so on, the two decimals of that many digits next to
the number are tried; the first count at which one of them rounds to the number
wins, and of two the nearer.
-/
import Counterpart.Binary.Format
import Counterpart.Text.Numeral

namespace Counterpart.Binary

/-- Where the middle between two equally near decimals goes. -/
inductive Tie where
  | up
  | toEven
  deriving DecidableEq, Repr

/-- A positive decimal `digits · 10 ^ exponent`. -/
structure Decimal where
  digits : Nat
  exponent : Int
  deriving DecidableEq, Repr

/-- A positive number and the ends of the interval that rounds to it, as numerators
over one denominator; the ends belong to it when `closed`. -/
structure Neighbourhood where
  low : Nat
  value : Nat
  high : Nat
  denominator : Nat
  closed : Bool

/-- The interval around `mantissa · 2 ^ exponent`, for a positive mantissa.  Below a
power of two the gap to the next smaller number is half as wide. -/
def Neighbourhood.ofScaled (f : Format) (mantissa : Nat) (exponent : Int) : Neighbourhood :=
  let narrow := mantissa == 2 ^ f.fractionBits && f.minExponent < exponent
  let (scale, denominator) : Nat × Nat := match exponent - 2 with
    | .ofNat n => (2 ^ n, 1)
    | .negSucc n => (1, 2 ^ (n + 1))
  { low := (4 * mantissa - if narrow then 1 else 2) * scale
    value := 4 * mantissa * scale
    high := (4 * mantissa + 2) * scale
    denominator := denominator
    closed := mantissa % 2 == 0 }

/-- The number of decimal digits of a natural, none for zero. -/
def digitCount (n : Nat) : Nat :=
  if n = 0 then 0 else (Nat.toDigits 10 n).length

/-- The greatest `k` with `10 ^ k ≤ num / den`, for a positive ratio. -/
def decimalOrder (num den : Nat) : Int :=
  if den ≤ num then (digitCount (num / den) : Int) - 1
  else -(digitCount ((den + num - 1) / num - 1) : Int)

/-- Whether `digits · scale / cut`, a decimal on the grid, lies in the interval. -/
def Neighbourhood.contains (n : Neighbourhood) (scale cut digits : Nat) : Bool :=
  let point := digits * scale * n.denominator
  if n.closed then n.low * cut ≤ point && point ≤ n.high * cut
  else n.low * cut < point && point < n.high * cut

/-- The decimal of `count` digits nearest to the number, if one is in the interval. -/
def Neighbourhood.onGrid? (n : Neighbourhood) (tie : Tie) (order : Int) (count : Nat) :
    Option Decimal :=
  let step : Int := order + 1 - count
  let (scale, cut) : Nat × Nat := match step with
    | .ofNat k => (10 ^ k, 1)
    | .negSucc k => (1, 10 ^ (k + 1))
  let below := n.value * cut / (scale * n.denominator)
  let above := below + 1
  match n.contains scale cut below, n.contains scale cut above with
  | false, false => none
  | true, false => some ⟨below, step⟩
  | false, true => some ⟨above, step⟩
  | true, true =>
      let twice := 2 * (n.value * cut)
      let middle := (below + above) * (scale * n.denominator)
      let up := middle < twice ∨ (middle = twice ∧ (tie = .up ∨ below % 2 = 1))
      some ⟨if up then above else below, step⟩

/-- Moves the zeros at the end of the digits into the exponent. -/
def Decimal.strip (fuel : Nat) (d : Decimal) : Decimal :=
  match fuel with
  | 0 => d
  | fuel + 1 =>
      if d.digits % 10 = 0 ∧ d.digits ≠ 0 then
        Decimal.strip fuel ⟨d.digits / 10, d.exponent + 1⟩
      else d

/-- The shortest decimal that rounds to `mantissa · 2 ^ exponent`.  Seventeen digits
always suffice for the formats of at most sixty-four bits. -/
def shortest (f : Format) (tie : Tie) (mantissa : Nat) (exponent : Int) : Decimal :=
  let n := Neighbourhood.ofScaled f mantissa exponent
  let order := decimalOrder n.value n.denominator
  let found := (List.range 17).findSome? fun i => n.onGrid? tie order (i + 1)
  (found.getD ⟨0, 0⟩).strip 20

/-- How floating-point numbers are laid out as text. -/
structure Layout where
  /-- The middle between two shortest decimals. -/
  tie : Tie
  /-- The least decimal order that is written without an exponent. -/
  leastPositional : Int
  /-- The greatest decimal order that is written without an exponent. -/
  greatestPositional : Int
  /-- Whether an exponent that is not negative has a plus sign. -/
  plusSign : Bool
  nan : String
  infinity : String

open Text

/-- Digits with a point after the first `order + 1` of them, and zeros where they
run out on either side. -/
def positional (digits : List Char) (order : Int) : List Char :=
  match order with
  | .ofNat n =>
      let whole := digits.take (n + 1)
      let fraction := digits.drop (n + 1)
      whole ++ List.replicate (n + 1 - whole.length) '0' ++ '.' ::
        (if fraction.isEmpty then ['0'] else fraction)
  | .negSucc n => '0' :: '.' :: (List.replicate n '0' ++ digits)

/-- Digits with a point after the first, if there are more, and the order behind `e`. -/
def exponential (plusSign : Bool) (digits : List Char) (order : Int) : List Char :=
  digits.take 1 ++ (if digits.length ≤ 1 then [] else '.' :: digits.drop 1) ++
    'e' :: ((if plusSign && 0 ≤ order then ['+'] else []) ++ integer order)

/-- The text of a positive decimal. -/
def Layout.decimal (layout : Layout) (d : Decimal) : List Char :=
  let digits := Text.decimal d.digits
  let order := d.exponent + digits.length - 1
  if layout.leastPositional ≤ order ∧ order ≤ layout.greatestPositional then
    positional digits order
  else exponential layout.plusSign digits order

/-- The text of a bit pattern of the format. -/
def Layout.text (layout : Layout) (f : Format) (bits : Nat) : List Char :=
  let sign (negative : Bool) (cs : List Char) : List Char := if negative then '-' :: cs else cs
  match f.decode bits with
  | .nan => layout.nan.toList
  | .infinite negative => sign negative layout.infinity.toList
  | .finite negative mantissa exponent =>
      sign negative
        (if mantissa = 0 then ['0', '.', '0']
        else layout.decimal (shortest f layout.tie mantissa exponent))

/-- The text of a nonnegative ratio with `places` digits behind the point, rounded to
the nearest, a tie going to the even digit. -/
def fixedPlaces (places num den : Nat) : List Char :=
  let digits := padZeros (places + 1) (Text.decimal (Format.roundDiv (num * 10 ^ places) den))
  digits.take (digits.length - places) ++ '.' :: digits.drop (digits.length - places)

/-- The ratio a finite nonnegative pattern stands for. -/
def Format.ratio (f : Format) (bits : Nat) : Nat × Nat :=
  match f.decode bits with
  | .finite _ mantissa (.ofNat n) => (mantissa * 2 ^ n, 1)
  | .finite _ mantissa (.negSucc n) => (mantissa, 2 ^ (n + 1))
  | _ => (0, 1)

end Counterpart.Binary
