/-
Numerals: reading and writing natural numbers and integers in a base.  A numeral
may open with a plus sign and must hold at least one digit; leading zeros are
read over.
-/
import Counterpart.Power

namespace Counterpart.Text

/-- The value of a digit in a base of at most sixteen; letters count from ten in
either case. -/
def digitValue? (base : Nat) (c : Char) : Option Nat :=
  let n := c.toNat
  let value? : Option Nat :=
    if '0'.toNat ≤ n ∧ n ≤ '9'.toNat then some (n - '0'.toNat)
    else if 'a'.toNat ≤ n ∧ n ≤ 'f'.toNat then some (n - 'a'.toNat + 10)
    else if 'A'.toNat ≤ n ∧ n ≤ 'F'.toNat then some (n - 'A'.toNat + 10)
    else none
  value?.filter (· < base)

/-- Reads digits on top of the value read so far. -/
def digitsFrom? (base : Nat) : Nat → List Char → Option Nat
  | value, [] => some value
  | value, c :: cs => (digitValue? base c).bind fun d => digitsFrom? base (value * base + d) cs

/-- The value of a nonempty run of digits. -/
def digits? (base : Nat) (cs : List Char) : Option Nat :=
  if cs.isEmpty then none else digitsFrom? base 0 cs

/-- A natural number below `bound`, with an optional plus sign. -/
def natBelow? (bound base : Nat) (cs : List Char) : Option Nat :=
  let body := match cs with
    | '+' :: rest => rest
    | _ => cs
  (digits? base body).filter (· < bound)

/-- A decimal numeral for an unsigned sixty-four-bit number. -/
def nat64? (cs : List Char) : Option Nat :=
  natBelow? (2 ^ 64) 10 cs

/-- A decimal numeral for a signed sixty-four-bit number. -/
def int64? (cs : List Char) : Option Int :=
  match cs with
  | '-' :: rest => ((digits? 10 rest).filter (· ≤ 2 ^ 63)).map fun n => -(n : Int)
  | _ => (natBelow? (2 ^ 63) 10 cs).map Int.ofNat

/-- Whether a character is a decimal digit. -/
def isDecimal (c : Char) : Bool :=
  '0'.toNat ≤ c.toNat && c.toNat ≤ '9'.toNat

/-- The decimal digits of a natural number. -/
def decimal (n : Nat) : List Char :=
  Nat.toDigits 10 n

/-- The lower-case hexadecimal digits of a natural number. -/
def hexadecimal (n : Nat) : List Char :=
  Nat.toDigits 16 n

/-- The digits of an integer, with a minus sign if it is negative. -/
def integer : Int → List Char
  | .ofNat n => decimal n
  | .negSucc n => '-' :: decimal (n + 1)

/-- A digit in upper case. -/
def upperDigit (c : Char) : Char :=
  if 'a'.toNat ≤ c.toNat ∧ c.toNat ≤ 'f'.toNat then Char.ofNat (c.toNat - 32) else c

/-- The text filled up on the right with spaces to `width` characters. -/
def padRight (width : Nat) (cs : List Char) : List Char :=
  cs ++ List.replicate (width - cs.length) ' '

/-- The text filled up on the left with zeros to `width` characters. -/
def padZeros (width : Nat) (cs : List Char) : List Char :=
  List.replicate (width - cs.length) '0' ++ cs

end Counterpart.Text
