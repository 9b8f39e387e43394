/-
Numbers of the sixty-four-bit binary format and the arithmetic on them.  Every
operation is exact on the data and rounds once.
-/
import Counterpart.Binary.Format
import Counterpart.Word

namespace Counterpart

open Binary

/-- A floating-point number, given by its bit pattern. -/
structure Double where
  bits : Word
  deriving DecidableEq, Repr, Inhabited

namespace Double

/-- The datum the pattern stands for. -/
def datum (x : Double) : Datum :=
  double.decode x.bits.toNat

/-- The number nearest to a datum. -/
def ofDatum (d : Datum) : Double :=
  ⟨BitVec.ofNat 64 (double.encode d)⟩

/-- The number nearest to a natural. -/
def ofNat (n : Nat) : Double :=
  ofDatum (.finite false n 0)

/-- The number nearest to an integer. -/
def ofInt (i : Int) : Double :=
  ofDatum (.finite (i < 0) i.natAbs 0)

/-- The number nearest to `num / den`. -/
def ofRatio (negative : Bool) (num den : Nat) : Double :=
  ⟨BitVec.ofNat 64 (double.signed negative (double.nearest num den))⟩

/-- The number nearest to `digits · 10 ^ exponent`. -/
def ofDecimal (negative : Bool) (digits : Nat) (exponent : Int) : Double :=
  match exponent with
  | .ofNat n => ofRatio negative (digits * 10 ^ n) 1
  | .negSucc n => ofRatio negative digits (10 ^ (n + 1))

/-- Positive zero. -/
def zero : Double := ⟨0⟩

/-- Whether the pattern is no number. -/
def isNaN (x : Double) : Bool :=
  x.datum == .nan

/-- Whether the pattern is one of the infinities. -/
def isInfinite (x : Double) : Bool :=
  x.datum == .infinite true || x.datum == .infinite false

/-- The number with the other sign. -/
def neg (x : Double) : Double :=
  ⟨x.bits ^^^ BitVec.twoPow 64 63⟩

/-- The number without its sign. -/
def abs (x : Double) : Double :=
  ⟨x.bits &&& ~~~ BitVec.twoPow 64 63⟩

/-- The integer `± mantissa · 2 ^ (exponent - base)`, for a base not above the exponent. -/
def scaledInt (negative : Bool) (mantissa : Nat) (exponent base : Int) : Int :=
  let magnitude : Int := mantissa * 2 ^ (exponent - base).toNat
  if negative then -magnitude else magnitude

/-- The rounded sum.  Infinities of opposite signs have none, and an exact sum of
zero is positive unless both terms are negative zeros. -/
def add (x y : Double) : Double :=
  match x.datum, y.datum with
  | .nan, _ => x
  | _, .nan => y
  | .infinite s, .infinite t => if s = t then x else ofDatum .nan
  | .infinite _, .finite _ _ _ => x
  | .finite _ _ _, .infinite _ => y
  | .finite s m e, .finite t n d =>
      let base := min e d
      let sum := scaledInt s m e base + scaledInt t n d base
      if sum = 0 then ofDatum (.finite (s && t) 0 0)
      else ofDatum (.finite (sum < 0) sum.natAbs base)

/-- The rounded difference. -/
def sub (x y : Double) : Double :=
  match y.datum with
  | .nan => if x.isNaN then x else y
  | _ => x.add y.neg

/-- The rounded product. -/
def mul (x y : Double) : Double :=
  match x.datum, y.datum with
  | .nan, _ => x
  | _, .nan => y
  | .infinite s, .infinite t => ofDatum (.infinite (s != t))
  | .infinite s, .finite t n _ => if n = 0 then ofDatum .nan else ofDatum (.infinite (s != t))
  | .finite s m _, .infinite t => if m = 0 then ofDatum .nan else ofDatum (.infinite (s != t))
  | .finite s m e, .finite t n d => ofDatum (.finite (s != t) (m * n) (e + d))

/-- The rounded quotient. -/
def div (x y : Double) : Double :=
  match x.datum, y.datum with
  | .nan, _ => x
  | _, .nan => y
  | .infinite _, .infinite _ => ofDatum .nan
  | .infinite s, .finite t _ _ => ofDatum (.infinite (s != t))
  | .finite s _ _, .infinite t => ofDatum (.finite (s != t) 0 0)
  | .finite s m e, .finite t n d =>
      if n = 0 then if m = 0 then ofDatum .nan else ofDatum (.infinite (s != t))
      else match e - d with
        | .ofNat k => ofRatio (s != t) (m * 2 ^ k) n
        | .negSucc k => ofRatio (s != t) m (n * 2 ^ (k + 1))

/-- Whether the first number is at most the second; never so for what is no number. -/
def le (x y : Double) : Bool :=
  match x.datum, y.datum with
  | .nan, _ => false
  | _, .nan => false
  | .infinite true, _ => true
  | _, .infinite false => true
  | .infinite false, _ => false
  | _, .infinite true => false
  | .finite s m e, .finite t n d =>
      scaledInt s m e (min e d) ≤ scaledInt t n d (min e d)

/-- Whether the two compare as equal: zeros of both signs do, and what is no number
equals nothing. -/
def eq (x y : Double) : Bool :=
  x.le y && y.le x

/-- The greater of two numbers. -/
def max (x y : Double) : Double :=
  if x.le y then y else x

/-- The thirty-two-bit pattern nearest to the number.  What is no number keeps its
sign and the upper part of its fraction, and becomes quiet. -/
def toSingle (x : Double) : BitVec 32 :=
  match x.datum with
  | .nan =>
      let sign := if x.bits.msb then BitVec.twoPow 32 31 else 0
      sign ||| BitVec.ofNat 32 single.quietNaN ||| (x.bits.extractLsb' 29 22).setWidth 32
  | d => BitVec.ofNat 32 (single.encode d)

/-- The number with a given thirty-two-bit pattern. -/
def ofSingle (bits : BitVec 32) : Double :=
  ofDatum (single.decode bits.toNat)

/-- The integer part, with every number beyond `low` or `high` moved to the nearer of
them, and zero for what is no number. -/
def toIntWithin (low high : Int) (x : Double) : Int :=
  match x.datum with
  | .nan => 0
  | .infinite negative => if negative then low else high
  | .finite negative mantissa exponent =>
      let magnitude : Int := match exponent with
        | .ofNat n => mantissa * 2 ^ n
        | .negSucc n => (mantissa / 2 ^ (n + 1) : Nat)
      Max.max low (min high (if negative then -magnitude else magnitude))

end Double

end Counterpart
