/-
What the expressions of the header come to under the rules of C for integers.  Types narrower than
`int` are promoted to it, the two operands of an operator are brought into one type, unsigned
results wrap around and a signed result that its type does not hold is undefined.  A shift to the
right rounds down, so it repeats the sign.
-/
import Counterpart.Header.Definition
import Counterpart.Proofs.Scalar.Integer

namespace Counterpart

namespace ScalarType

/-- The type `int`. -/
def plainInt : ScalarType := .int .w4 true

/-- The type an operand is computed in. -/
def promoted : ScalarType → ScalarType
  | .int .w1 _ | .int .w2 _ => plainInt
  | ty => ty

/-- The type of an operator between two integers: the wider of the two promoted types, and of two
equally wide ones the unsigned one. -/
def common (left right : ScalarType) : ScalarType :=
  match left.promoted, right.promoted with
  | .int w signed, .int w' signed' =>
      if w.bytes < w'.bytes then .int w' signed'
      else if w'.bytes < w.bytes then .int w signed
      else .int w (signed && signed')
  | ty, _ => ty

end ScalarType

namespace ScalarValue

/-- The number is one of the numbers of the type. -/
def Holds (ty : ScalarType) (n : Int) : Prop :=
  (ofInt ty n).toInt = n

instance (ty : ScalarType) (n : Int) : Decidable (Holds ty n) :=
  inferInstanceAs (Decidable (_ = _))

/-- The number as the result of an operator in an integer type. -/
def fit? (ty : ScalarType) (n : Int) : Option ScalarValue :=
  match ty with
  | .int _ false => some (ofInt ty n)
  | .int _ true => if Holds ty n then some (ofInt ty n) else none
  | _ => none

/-- Two operands combined bit by bit in their common type. -/
def bitwise (f : Word → Word → Word) (x y : ScalarValue) : ScalarValue :=
  let ty := x.ty.common y.ty
  ofBits ty (f (ofInt ty x.toInt).bits (ofInt ty y.toInt).bits)

/-- How far a value of the promoted type is shifted; an amount outside that type is undefined. -/
def amount? (ty : ScalarType) (y : ScalarValue) : Option Nat :=
  if 0 ≤ y.toInt ∧ y.toInt < 8 * ty.size then some y.toInt.toNat else none

end ScalarValue

open ScalarValue Header

/-- The value of an operator between two integers.  A negative number is not shifted to the
left. -/
def COperator.result? (op : COperator) (x y : ScalarValue) : Option ScalarValue :=
  match op with
  | .bitAnd => some (bitwise (· &&& ·) x y)
  | .bitOr => some (bitwise (· ||| ·) x y)
  | .times =>
      let ty := x.ty.common y.ty
      fit? ty ((ofInt ty x.toInt).toInt * (ofInt ty y.toInt).toInt)
  | .shiftLeft => do
      let n ← amount? x.ty.promoted y
      if x.toInt < 0 then none else fit? x.ty.promoted (x.toInt * (2 ^ n : Nat))
  | .shiftRight => do
      let n ← amount? x.ty.promoted y
      fit? x.ty.promoted (x.toInt / (2 ^ n : Nat))

namespace CExpr

/-- The value of an expression over integers.  A literal in base ten has the first type that
holds it, `int` or the signed word. -/
def eval? (env : String → Option ScalarValue) : CExpr → Option ScalarValue
  | argument name => (env name).filter (·.ty.isInteger)
  | number n => fit? .plainInt n <|> fit? signedWord n
  | pattern bits => some ⟨unsignedWord, bits⟩
  | cast ty operand =>
      if ty.isInteger then (operand.eval? env).map fun x => ofInt ty x.toInt else none
  | binary op left right => do
      let x ← left.eval? env
      let y ← right.eval? env
      op.result? x y
  | group inner => inner.eval? env

/-- The expression has a value of the type, and the value is the number. -/
def ComesTo (env : String → Option ScalarValue) (e : CExpr) (ty : ScalarType) (n : Int) : Prop :=
  ∃ x, e.eval? env = some x ∧ x.ty = ty ∧ x.toInt = n

end CExpr

/-- The arguments by their names. -/
def CDefinition.environment (names : List String) (arguments : List ScalarValue) (name : String) :
    Option ScalarValue :=
  (names.zip arguments).lookup name

/-- The value of a definition for its arguments. -/
def CDefinition.call? (d : CDefinition) (arguments : List ScalarValue) : Option ScalarValue :=
  if d.arguments.length = arguments.length then d.body.eval? (environment d.arguments arguments)
  else none

namespace ScalarValue

variable {w : Width} {signed : Bool} {n : Int}

theorem holds_unsigned (hnonneg : 0 ≤ n) (hlt : n < (2 ^ w.bits : Nat)) :
    Holds (.int w false) n := by
  rw [Holds, toInt_ofInt_unsigned, Int.emod_eq_of_lt hnonneg hlt]

theorem holds_signed (hlow : -(2 ^ (w.bits - 1) : Nat) ≤ n) (hhigh : n < (2 ^ (w.bits - 1) : Nat)) :
    Holds (.int w true) n := by
  have hdouble : 2 ^ w.bits = 2 ^ (w.bits - 1) * 2 := by
    rw [← Nat.pow_succ, Nat.succ_eq_add_one, Nat.sub_add_cancel w.bits_pos]
  rw [Holds, toInt_ofInt_signed]
  exact Int.bmod_eq_of_le (by omega) (by omega)

/-- Every integer type holds the numbers that seven bits hold. -/
theorem holds_of_lt (hnonneg : 0 ≤ n) (hlt : n < 128) : Holds (.int w signed) n := by
  have hbytes : 1 ≤ w.bytes := by cases w <;> decide
  have hseven : 2 ^ 7 ≤ 2 ^ (w.bits - 1) :=
    Nat.pow_le_pow_right (by decide) (by rw [Width.bits]; omega)
  have height : 2 ^ (w.bits - 1) ≤ 2 ^ w.bits :=
    Nat.pow_le_pow_right (by decide) (Nat.sub_le _ _)
  cases signed with
  | false => exact holds_unsigned hnonneg (by omega)
  | true => exact holds_signed (by omega) (by omega)

theorem fit?_of_holds (hholds : Holds (.int w signed) n) :
    fit? (.int w signed) n = some (ofInt (.int w signed) n) := by
  cases signed with
  | false => rfl
  | true => exact if_pos hholds

theorem amount?_of_lt {ty : ScalarType} {y : ScalarValue} {k : Nat} (hy : y.toInt = k)
    (hk : k < 8 * ty.size) : amount? ty y = some k := by
  rw [amount?, hy, if_pos ⟨Int.natCast_nonneg k, by omega⟩, Int.toNat_natCast]

theorem exists_common (w w' : Width) (signed signed' : Bool) :
    ∃ v s, ScalarType.common (.int w signed) (.int w' signed') = .int v s := by
  cases w <;> cases w' <;> exact ⟨_, _, rfl⟩

theorem common_unsignedWord (w : Width) (signed : Bool) :
    ScalarType.common (.int w signed) unsignedWord = unsignedWord := by
  cases w <;> cases signed <;> rfl

/-- The unsigned word takes every pattern as it is. -/
theorem ofBits_unsignedWord (bits : Word) : ofBits unsignedWord bits = ⟨unsignedWord, bits⟩ :=
  ofBits_of_lt (v := ⟨unsignedWord, bits⟩) bits.isLt

theorem bits_ofInt_unsignedWord (i : Int) : (ofInt unsignedWord i).bits = BitVec.ofInt 64 i := by
  rw [ofInt, ofBits_unsignedWord]

theorem ofInt_toNat (bits : Word) : BitVec.ofInt 64 bits.toNat = bits := by
  rw [BitVec.ofInt_natCast, BitVec.ofNat_toNat, BitVec.setWidth_eq]

/-- Two patterns, the second a whole word, are combined as whole words. -/
theorem bitwise_unsignedWord (g : Word → Word → Word) {x : ScalarValue} (bits : Word)
    (hx : x.ty = .int w signed) :
    bitwise g x ⟨unsignedWord, bits⟩ = ⟨unsignedWord, g (BitVec.ofInt 64 x.toInt) bits⟩ := by
  have hbits : (ofInt unsignedWord (⟨unsignedWord, bits⟩ : ScalarValue).toInt).bits = bits := by
    rw [bits_ofInt_unsignedWord]
    exact ofInt_toNat bits
  simp only [bitwise, hx, common_unsignedWord, bits_ofInt_unsignedWord, ofBits_unsignedWord]
    at hbits ⊢
  rw [hbits]

/-- A number of a whole word stays in its type when it is shifted to the right. -/
theorem holds_shiftRight (signed : Bool) (bits : Word) (k : Nat) :
    Holds (.int .w8 signed) ((⟨.int .w8 signed, bits⟩ : ScalarValue).toInt / (2 ^ k : Nat)) := by
  cases signed with
  | false =>
      have hlt : (bits.toNat : Int) < (2 ^ 64 : Nat) := Int.ofNat_lt.2 bits.isLt
      have hnonneg : (0 : Int) ≤ bits.toNat := Int.natCast_nonneg _
      refine holds_unsigned (Int.ediv_nonneg hnonneg (Int.natCast_nonneg _)) ?_
      exact Int.lt_of_le_of_lt (Int.ediv_le_self _ hnonneg) hlt
  | true =>
      have hvalue : (⟨.int .w8 true, bits⟩ : ScalarValue).toInt = bits.toInt :=
        congrArg BitVec.toInt (BitVec.setWidth_eq bits)
      have hlow : -(2 ^ 63 : Nat) ≤ bits.toInt := BitVec.le_toInt bits
      have hhigh : bits.toInt < (2 ^ 63 : Nat) := BitVec.toInt_lt
      have hpow : (0 : Int) < (2 ^ k : Nat) := Int.natCast_pos.2 (Nat.two_pow_pos k)
      have hsmall : -(2 ^ 63 : Nat) * ((2 ^ k : Nat) : Int) ≤ -(2 ^ 63 : Nat) * 1 :=
        Int.mul_le_mul_of_nonpos_left (by decide) hpow
      have hlarge : ((2 ^ 63 : Nat) : Int) * 1 ≤ (2 ^ 63 : Nat) * (2 ^ k : Nat) :=
        Int.mul_le_mul_of_nonneg_left hpow (by decide)
      rw [hvalue]
      refine holds_signed ?_ ?_
      · exact (Int.le_ediv_iff_mul_le hpow).2 (Int.le_trans hsmall hlow)
      · exact (Int.ediv_lt_iff_lt_mul hpow).2 (Int.lt_of_lt_of_le hhigh hlarge)

end ScalarValue

namespace CExpr

variable {env : String → Option ScalarValue} {e f : CExpr} {w : Width} {signed : Bool} {n : Int}

theorem comesTo_argument {name : String} {v : ScalarValue} (henv : env name = some v)
    (hinteger : v.ty.isInteger = true) : (argument name).ComesTo env v.ty v.toInt := by
  refine ⟨v, ?_, rfl, rfl⟩
  rw [eval?, henv, Option.filter_some, if_pos hinteger]

theorem comesTo_number {n : Nat} (hn : n < 128) : (number n).ComesTo env .plainInt n := by
  have hholds : Holds .plainInt n := holds_of_lt (by omega) (by omega)
  refine ⟨ofInt .plainInt n, ?_, rfl, hholds⟩
  rw [eval?, ScalarType.plainInt, fit?_of_holds hholds]
  rfl

theorem comesTo_cast (w : Width) (signed : Bool) {ty : ScalarType} (he : e.ComesTo env ty n) :
    (cast (.int w signed) e).ComesTo env (.int w signed) (ofInt (.int w signed) n).toInt := by
  obtain ⟨x, heval, -, rfl⟩ := he
  refine ⟨ofInt (.int w signed) x.toInt, ?_, rfl, rfl⟩
  rw [eval?, heval]
  rfl

theorem comesTo_group {ty : ScalarType} (he : e.ComesTo env ty n) :
    (group e).ComesTo env ty n := he

theorem eval?_binary {op : COperator} {x y : ScalarValue} (he : e.eval? env = some x)
    (hf : f.eval? env = some y) : (binary op e f).eval? env = op.result? x y := by
  rw [eval?, he, hf]
  rfl

theorem comesTo_masked {k : Nat} (hk : k ≤ 8) (he : e.ComesTo env (.int w signed) n) :
    (masked e k).ComesTo env unsignedWord (n % (2 ^ (8 * k) : Nat)) := by
  obtain ⟨x, heval, hty, rfl⟩ := he
  have hdvd : ((2 ^ (8 * k) : Nat) : Int) ∣ (2 ^ 64 : Nat) :=
    Int.natCast_dvd_natCast.2 (Nat.pow_dvd_pow 2 (by omega))
  have hnonneg : 0 ≤ x.toInt % (2 ^ 64 : Nat) := Int.emod_nonneg _ (by decide)
  refine ⟨⟨unsignedWord, BitVec.ofInt 64 x.toInt &&& Word.mask k⟩, ?_, rfl, ?_⟩
  · rw [masked, eval?_binary heval rfl, COperator.result?, bitwise_unsignedWord _ _ hty]
  · change ((BitVec.ofInt 64 x.toInt &&& Word.mask k).toNat : Int) = _
    rw [Word.toNat_and_mask hk, BitVec.toNat_ofInt, Int.natCast_emod, Int.toNat_of_nonneg hnonneg,
      Int.emod_emod_of_dvd _ hdvd]

theorem comesTo_bitOr {high low k : Nat} (hlow : low < 2 ^ k)
    (he : e.ComesTo env unsignedWord (high * 2 ^ k : Nat)) (hf : f.ComesTo env unsignedWord low) :
    (binary .bitOr e f).ComesTo env unsignedWord (high * 2 ^ k + low : Nat) := by
  obtain ⟨⟨-, upper⟩, hx, rfl, hupper⟩ := he
  obtain ⟨⟨-, bits⟩, hy, rfl, hbits⟩ := hf
  have hupper : upper.toNat = high * 2 ^ k := Int.ofNat_inj.1 hupper
  have hbits : bits.toNat = low := Int.ofNat_inj.1 hbits
  refine ⟨⟨unsignedWord, upper ||| bits⟩, ?_, rfl, ?_⟩
  · rw [eval?_binary hx hy, COperator.result?, bitwise_unsignedWord _ _ rfl]
    exact congrArg (fun word : Word => some (ScalarValue.mk unsignedWord (word ||| bits)))
      (ofInt_toNat upper)
  · change ((upper ||| bits).toNat : Int) = _
    rw [BitVec.toNat_or, hupper, hbits, ← Nat.shiftLeft_eq, Nat.shiftLeft_add_eq_or_of_lt hlow]

theorem comesTo_times {w' : Width} {signed' : Bool} {m : Int}
    (he : e.ComesTo env (.int w signed) n) (hf : f.ComesTo env (.int w' signed') m)
    (hn : 0 ≤ n ∧ n < 128) (hm : 0 ≤ m ∧ m < 128) (hproduct : n * m < 128) :
    ∃ v s, (binary .times e f).ComesTo env (.int v s) (n * m) := by
  obtain ⟨x, hx, hxty, rfl⟩ := he
  obtain ⟨y, hy, hyty, rfl⟩ := hf
  obtain ⟨v, s, hcommon⟩ := exists_common w w' signed signed'
  have hleft : Holds (.int v s) x.toInt := holds_of_lt hn.1 hn.2
  have hright : Holds (.int v s) y.toInt := holds_of_lt hm.1 hm.2
  have hholds : Holds (.int v s) (x.toInt * y.toInt) :=
    holds_of_lt (Int.mul_nonneg hn.1 hm.1) hproduct
  refine ⟨v, s, ofInt (.int v s) (x.toInt * y.toInt), ?_, rfl, hholds⟩
  rw [Holds] at hleft hright
  simp only [eval?_binary hx hy, COperator.result?, hxty, hyty, hcommon, hleft, hright,
    fit?_of_holds hholds]

theorem comesTo_shiftLeft {ty : ScalarType} {k : Nat} (hk : k < 64)
    (he : e.ComesTo env unsignedWord n) (hf : f.ComesTo env ty k) :
    (binary .shiftLeft e f).ComesTo env unsignedWord (n * (2 ^ k : Nat) % (2 ^ 64 : Nat)) := by
  obtain ⟨⟨-, bits⟩, hx, rfl, rfl⟩ := he
  obtain ⟨y, hy, -, hvalue⟩ := hf
  have hnonneg : ¬ (⟨unsignedWord, bits⟩ : ScalarValue).toInt < 0 :=
    Int.not_lt.2 (Int.natCast_nonneg bits.toNat)
  have hamount : amount? unsignedWord y = some k := amount?_of_lt hvalue hk
  refine ⟨_, ?_, rfl, toInt_ofInt_unsigned .w8 _⟩
  rw [eval?_binary hx hy]
  change (amount? unsignedWord y).bind _ = _
  rw [hamount, Option.bind_some, if_neg hnonneg]
  rfl

theorem comesTo_shiftRight {ty : ScalarType} {k : Nat} (hk : k < 64)
    (he : e.ComesTo env (.int .w8 signed) n) (hf : f.ComesTo env ty k) :
    (binary .shiftRight e f).ComesTo env (.int .w8 signed) (n / (2 ^ k : Nat)) := by
  obtain ⟨⟨-, bits⟩, hx, rfl, rfl⟩ := he
  obtain ⟨y, hy, -, hvalue⟩ := hf
  have hamount : amount? (.int .w8 signed) y = some k := amount?_of_lt hvalue hk
  have hholds := holds_shiftRight signed bits k
  refine ⟨_, ?_, rfl, hholds⟩
  rw [eval?_binary hx hy]
  change (amount? (.int .w8 signed) y).bind _ = _
  rw [hamount]
  exact fit?_of_holds hholds

end CExpr

end Counterpart
