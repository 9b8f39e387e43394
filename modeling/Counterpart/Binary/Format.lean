/-
Binary floating point.  A format fixes the widths of the exponent and fraction
fields; a bit pattern of the format is read as a datum, and a nonnegative ratio
is rounded to the nearest pattern, a tie going to the even one.
-/
import Counterpart.Power

namespace Counterpart.Binary

/-- The field widths of a binary interchange format. -/
structure Format where
  fractionBits : Nat
  exponentBits : Nat
  deriving DecidableEq, Repr

/-- The format of thirty-two bits. -/
def single : Format := ⟨23, 8⟩

/-- The format of sixty-four bits. -/
def double : Format := ⟨52, 11⟩

/-- What a bit pattern stands for; a finite datum is `± mantissa · 2 ^ exponent`. -/
inductive Datum where
  | nan
  | infinite (negative : Bool)
  | finite (negative : Bool) (mantissa : Nat) (exponent : Int)
  deriving DecidableEq, Repr

namespace Format

variable (f : Format)

/-- The exponent field of infinities and of data that are no number. -/
def topField : Nat := 2 ^ f.exponentBits - 1

/-- The exponent of the smallest positive datum. -/
def minExponent : Int := 2 - 2 ^ (f.exponentBits - 1) - f.fractionBits

/-- The pattern of positive infinity. -/
def infinity : Nat := f.topField * 2 ^ f.fractionBits

/-- The pattern of a quiet datum that is no number. -/
def quietNaN : Nat := f.infinity + 2 ^ (f.fractionBits - 1)

/-- The bit that makes a pattern negative. -/
def signBit : Nat := 2 ^ (f.exponentBits + f.fractionBits)

/-- The datum of a bit pattern. -/
def decode (bits : Nat) : Datum :=
  let negative := bits / f.signBit % 2 == 1
  let field := bits / 2 ^ f.fractionBits % 2 ^ f.exponentBits
  let fraction := bits % 2 ^ f.fractionBits
  if field = f.topField then
    if fraction = 0 then .infinite negative else .nan
  else if field = 0 then .finite negative fraction f.minExponent
  else .finite negative (2 ^ f.fractionBits + fraction) (f.minExponent + (field - 1 : Nat))

/-- The quotient of naturals rounded to the nearest, a tie going to the even one. -/
def roundDiv (num den : Nat) : Nat :=
  let q := num / den
  let r := num % den
  if den < 2 * r ∨ (2 * r = den ∧ q % 2 = 1) then q + 1 else q

/-- The quotient `num / (den · 2 ^ exponent)` rounded to the nearest natural. -/
def roundScaled (num den : Nat) (exponent : Int) : Nat :=
  match exponent with
  | .ofNat n => roundDiv num (den * 2 ^ n)
  | .negSucc n => roundDiv (num * 2 ^ (n + 1)) den

/-- The greatest `k` with `2 ^ k ≤ num / den`, for a positive ratio. -/
def binaryOrder (num den : Nat) : Int :=
  let guess : Int := (Nat.log2 num : Int) - (Nat.log2 den : Int)
  let reached : Bool := match guess with
    | .ofNat n => den * 2 ^ n ≤ num
    | .negSucc n => den ≤ num * 2 ^ (n + 1)
  if reached then guess else guess - 1

/-- The pattern nearest to a nonnegative ratio; one beyond the largest finite
datum becomes infinity. -/
def nearest (num den : Nat) : Nat :=
  if num = 0 then 0
  else
    let exponent := max (binaryOrder num den - f.fractionBits) f.minExponent
    let mantissa := roundScaled num den exponent
    min ((exponent - f.minExponent).toNat * 2 ^ f.fractionBits + mantissa) f.infinity

/-- The pattern nearest to `mantissa · 2 ^ exponent`. -/
def nearestScaled (mantissa : Nat) (exponent : Int) : Nat :=
  match exponent with
  | .ofNat n => f.nearest (mantissa * 2 ^ n) 1
  | .negSucc n => f.nearest mantissa (2 ^ (n + 1))

/-- A magnitude with its sign. -/
def signed (negative : Bool) (magnitude : Nat) : Nat :=
  if negative then f.signBit + magnitude else magnitude

/-- The pattern nearest to a datum. -/
def encode : Datum → Nat
  | .nan => f.quietNaN
  | .infinite negative => f.signed negative f.infinity
  | .finite negative mantissa exponent =>
      f.signed negative (f.nearestScaled mantissa exponent)

end Format

end Counterpart.Binary
