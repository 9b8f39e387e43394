/-
The text of a definition read under the grammar of C.  A cast binds tightest, then `*`, the shifts,
`&` and `|`, and an operator takes the operands on its left first.

The reader goes over the tokens once.  It keeps what waits for an operand on its right, the nearest
first, and an operator closes whatever in front of it binds at least as tightly.
-/
import Counterpart.Header.Expression
import Counterpart.Proofs.Text.Blank
import Counterpart.Proofs.Text.Identifier
import Counterpart.Scalar.Vocabulary

namespace Counterpart

namespace COperator

/-- How loosely an operator binds. -/
def rank : COperator → Nat
  | times => 1
  | shiftLeft | shiftRight => 2
  | bitAnd => 3
  | bitOr => 4

/-- The operator of a token. -/
def ofSymbol? (token : List Char) : Option COperator :=
  [bitAnd, bitOr, shiftLeft, shiftRight, times].find? (·.symbol.toList == token)

end COperator

namespace CExpr

open Text

/-- A parenthesis with blanks around it. -/
def setApart (c : Char) : List Char :=
  if c = '(' ∨ c = ')' then [' ', c, ' '] else [c]

/-- The tokens of a text.  Parentheses are tokens, and blanks part the others. -/
def scan (cs : List Char) : List (List Char) :=
  (pieces ' ' (cs.flatMap setApart)).filter (· ≠ [])

/-- The pattern of a literal in base sixteen. -/
def pattern? (token : List Char) : Option Word := do
  let rest ← dropFront? "0x".toList token
  let digits ← dropBack? "ULL".toList rest
  let n ← (digits? 16 digits).filter (· < 2 ^ 64)
  some (BitVec.ofNat 64 n)

/-- The number of a literal in base ten, which has no zeros in front. -/
def number? (token : List Char) : Option Nat :=
  (digits? 10 token).filter (decimal · == token)

/-- The argument or the literal of a token. -/
def atom? (token : List Char) : Option CExpr :=
  if isIdentifier token then some (argument (String.ofList token))
  else (number? token).map number <|> (pattern? token).map pattern

/-- What waits for the operand on its right. -/
inductive Waiting where
  | paren
  | cast (target : ScalarType)
  | left (operand : CExpr) (op : COperator)
  deriving DecidableEq, Repr

/-- What the reader expects: an operand, the end of the name of a type in parentheses, or
an operator behind an operand. -/
inductive ReaderState where
  | operand (waiting : List Waiting)
  | castEnd (target : ScalarType) (waiting : List Waiting)
  | operator (e : CExpr) (waiting : List Waiting)
  deriving DecidableEq, Repr

/-- The operand for an operator of some rank, once everything that binds as tightly is closed. -/
def settle (rank : Nat) (e : CExpr) : List Waiting → CExpr × List Waiting
  | .cast target :: waiting => settle rank (cast target e) waiting
  | .left first op :: waiting =>
      if op.rank ≤ rank then settle rank (binary op first e) waiting
      else (e, .left first op :: waiting)
  | waiting => (e, waiting)

/-- The rank of the loosest operator. -/
def loosest : Nat := COperator.rank .bitOr

namespace ReaderState

/-- The state behind the name of a type, which stands in parentheses. -/
def openCast? (target : ScalarType) : List Waiting → Option ReaderState
  | .paren :: waiting => some (castEnd target waiting)
  | _ => none

/-- The state behind an operand that is whole up to the next parenthesis. -/
def close? (e : CExpr) (waiting : List Waiting) : Option ReaderState :=
  match settle loosest e waiting with
  | (inner, .paren :: waiting) => some (operator (group inner) waiting)
  | _ => none

/-- The state after one more token. -/
def step : ReaderState → List Char → Option ReaderState
  | operand waiting, token =>
      if token = ['('] then some (operand (.paren :: waiting))
      else match ScalarType.ofName? (String.ofList token) with
        | some target => openCast? target waiting
        | none => (atom? token).map (operator · waiting)
  | castEnd target waiting, token =>
      if token = [')'] then some (operand (.cast target :: waiting)) else none
  | operator e waiting, token =>
      if token = [')'] then close? e waiting
      else (COperator.ofSymbol? token).map fun op =>
        let settled := settle op.rank e waiting
        operand (.left settled.1 op :: settled.2)

/-- The expression once the tokens have ended. -/
def finish? : ReaderState → Option CExpr
  | operator e waiting =>
      match settle loosest e waiting with
      | (e, []) => some e
      | _ => none
  | _ => none

end ReaderState

/-- The expression of a text. -/
def read? (cs : List Char) : Option CExpr :=
  ((scan cs).foldlM ReaderState.step (.operand [])).bind ReaderState.finish?

/-- The rank of the outermost operator; an expression without one binds tightest. -/
def rank : CExpr → Nat
  | binary op _ _ => op.rank
  | _ => 0

/-- Every operand binds tighter than its operator, and an argument is named by an identifier that is
not the name of a type. -/
def Grouped : CExpr → Prop
  | argument name => isIdentifier name.toList = true ∧ ScalarType.ofName? name = none
  | number _ | pattern _ => True
  | cast _ operand => operand.rank = 0 ∧ operand.Grouped
  | binary op left right =>
      left.rank < op.rank ∧ right.rank < op.rank ∧ left.Grouped ∧ right.Grouped
  | group inner => inner.Grouped

/-- The tokens of an expression. -/
def tokens : CExpr → List (List Char)
  | argument name => [name.toList]
  | number n => [decimal n]
  | pattern bits => ["0x".toList ++ patternDigits bits ++ "ULL".toList]
  | cast target operand => ['('] :: target.name.toList :: [')'] :: operand.tokens
  | binary op left right => left.tokens ++ op.symbol.toList :: right.tokens
  | group inner => ['('] :: inner.tokens ++ [[')']]

section Scan

theorem scan_blank (front back : List Char) :
    scan (front ++ ' ' :: back) = scan front ++ scan back := by
  have hblank : setApart ' ' = [' '] := rfl
  rw [scan, List.flatMap_append, List.flatMap_cons, hblank, List.singleton_append, pieces_mark,
    List.filter_append]
  rfl

theorem scan_paren {c : Char} (hc : c = '(' ∨ c = ')') (front back : List Char) :
    scan (front ++ c :: back) = scan front ++ [c] :: scan back := by
  have hne : ' ' ∉ [c] := by
    rcases hc with rfl | rfl <;> decide
  have hparen : setApart c = [' ', c, ' '] := if_pos hc
  have hback : pieces ' ' (c :: ' ' :: back.flatMap setApart) =
      [c] :: pieces ' ' (back.flatMap setApart) := pieces_append hne _
  rw [scan, List.flatMap_append, List.flatMap_cons, hparen, List.cons_append, pieces_mark,
    List.cons_append, List.singleton_append, hback, List.filter_append, List.filter_cons]
  rfl

theorem scan_open (cs : List Char) : scan ('(' :: cs) = ['('] :: scan cs :=
  scan_paren (Or.inl rfl) [] cs

theorem scan_close (front back : List Char) :
    scan (front ++ ')' :: back) = scan front ++ [')'] :: scan back :=
  scan_paren (Or.inr rfl) front back

/-- A text of identifier characters is one token. -/
theorem scan_word {cs : List Char} (hne : cs ≠ []) (hword : ∀ c ∈ cs, isIdentifierPart c = true) :
    scan cs = [cs] := by
  have hself : ∀ c ∈ cs, setApart c = [c] := by
    intro c hc
    refine if_neg ?_
    rintro (rfl | rfl) <;> exact absurd (hword _ hc) (by decide)
  have hsame : cs.flatMap setApart = cs := by
    rw [List.flatMap_def, List.map_congr_left hself, ← List.flatMap_def, List.flatMap_singleton']
  have hblank : ' ' ∉ cs := fun hmem => absurd (hword _ hmem) (by decide)
  rw [scan, hsame, pieces_of_notMem hblank]
  exact List.filter_eq_self.2 (by simpa using hne)

theorem scan_symbol (op : COperator) : scan op.symbol.toList = [op.symbol.toList] := by
  cases op <;> decide

theorem scan_identifier {cs : List Char} (hname : isIdentifier cs = true) : scan cs = [cs] := by
  have hne : cs ≠ [] := by
    rintro rfl
    cases hname
  exact scan_word hne fun c hc => isIdentifierPart_of_mem hname hc

theorem isIdentifier_name (target : ScalarType) : isIdentifier target.name.toList = true := by
  cases target with
  | int width signed => cases width <;> cases signed <;> decide
  | f32 | f64 => decide

end Scan

section Literal

theorem isIdentifierPart_of_mem_patternDigits {bits : Word} {c : Char}
    (hc : c ∈ patternDigits bits) : isIdentifierPart c = true := by
  have hdigit : ∀ d < 16, isIdentifierPart (upperDigit d.digitChar) = true := by decide
  obtain ⟨lower, hlower, rfl⟩ := List.mem_map.1 hc
  obtain ⟨d, hd, rfl⟩ := exists_digit_of_mem_toDigits isBase_sixteen hlower
  exact hdigit d hd

/-- The upper-case digits of a number have its value. -/
theorem digitsFrom?_map_upperDigit (value : Nat) {cs : List Char}
    (hdigits : ∀ c ∈ cs, ∃ d < 16, c = d.digitChar) :
    digitsFrom? 16 value (cs.map upperDigit) = digitsFrom? 16 value cs := by
  have hupper : ∀ d < 16, digitValue? 16 (upperDigit d.digitChar) = digitValue? 16 d.digitChar := by
    decide
  induction cs generalizing value with
  | nil => rfl
  | cons c cs ih =>
      obtain ⟨d, hd, rfl⟩ := hdigits c List.mem_cons_self
      have hrest : ∀ c ∈ cs, ∃ d < 16, c = d.digitChar :=
        fun c hc => hdigits c (List.mem_cons_of_mem _ hc)
      rw [List.map_cons, digitsFrom?, digitsFrom?, hupper d hd]
      exact Option.bind_congr fun d _ => ih _ hrest

theorem digits?_patternDigits (bits : Word) :
    digits? 16 (patternDigits bits) = some bits.toNat := by
  have hne : (patternDigits bits).isEmpty = false := by
    simp [patternDigits, hexadecimal, Nat.toDigits_ne_nil]
  have hdigits := digitsFrom?_toDigits isBase_sixteen bits.toNat
  rw [← digitsFrom?_map_upperDigit 0 fun c hc => exists_digit_of_mem_toDigits isBase_sixteen hc]
    at hdigits
  rw [digits?, hne]
  exact hdigits

theorem pattern?_text (bits : Word) : pattern? (pattern bits).text = some bits := by
  have hlt : bits.toNat < 2 ^ 64 := bits.isLt
  rw [pattern?, text, List.append_assoc, dropFront?_append]
  simp only [Option.bind_eq_bind, Option.bind_some, dropBack?_append, digits?_patternDigits,
    Option.filter_some, decide_eq_true hlt, if_true, BitVec.ofNat_toNat, BitVec.setWidth_eq]

theorem number?_decimal (n : Nat) : number? (decimal n) = some n := by
  have hdigits : digits? 10 (decimal n) = some n := digits?_toDigits isBase_ten n
  rw [number?, hdigits, Option.filter_some, if_pos (beq_self_eq_true _)]

/-- The name of a type is an identifier. -/
theorem ofName?_of_not_identifier {token : List Char} (htoken : isIdentifier token = false) :
    ScalarType.ofName? (String.ofList token) = none := by
  have hnames : ∀ t ∈ TypeName.all, isIdentifier t.name.toList = true := by decide
  rw [ScalarType.ofName?, TypeName.find?, Option.map_eq_none_iff, List.find?_eq_none]
  intro t ht hname
  have hidentifier := hnames t ht
  rw [beq_iff_eq.1 hname, String.toList_ofList, htoken] at hidentifier
  cases hidentifier

/-- A literal opens with a digit. -/
theorem not_isIdentifier_of_head {c : Char} {cs : List Char} (hc : isDecimal c = true) :
    isIdentifier (c :: cs) = false := by
  have hstart : ¬ isIdentifierStart c = true := by
    intro hstart
    rw [not_isDecimal_of_isIdentifierStart hstart] at hc
    cases hc
  rw [isIdentifier, Bool.eq_false_iff.2 hstart, Bool.false_and]

theorem not_isIdentifier_decimal (n : Nat) : isIdentifier (decimal n) = false := by
  obtain ⟨c, cs, hcs⟩ := List.exists_cons_of_ne_nil (Nat.toDigits_ne_nil (b := 10) (n := n))
  have hdecimal : decimal n = c :: cs := hcs
  have hc : isDecimal c = true := isDecimal_of_mem_decimal (hdecimal ▸ List.mem_cons_self)
  rw [hdecimal, not_isIdentifier_of_head hc]

theorem not_isIdentifier_pattern (bits : Word) : isIdentifier (pattern bits).text = false :=
  not_isIdentifier_of_head (c := '0') rfl

theorem atom?_argument {name : String} (hname : isIdentifier name.toList = true) :
    atom? name.toList = some (argument name) := by
  rw [atom?, if_pos hname, String.ofList_toList]

theorem atom?_number (n : Nat) : atom? (decimal n) = some (number n) := by
  rw [atom?, not_isIdentifier_decimal, number?_decimal]
  rfl

theorem atom?_pattern (bits : Word) : atom? (pattern bits).text = some (pattern bits) := by
  have hnumber : number? (pattern bits).text = none := rfl
  rw [atom?, not_isIdentifier_pattern, hnumber, pattern?_text]
  rfl

end Literal

theorem isIdentifierPart_of_mem_pattern {bits : Word} {c : Char} (hc : c ∈ (pattern bits).text) :
    isIdentifierPart c = true := by
  have hfront : "0x".toList.all isIdentifierPart = true := by decide
  have hback : "ULL".toList.all isIdentifierPart = true := by decide
  rw [List.all_eq_true] at hfront hback
  rw [text, List.mem_append, List.mem_append] at hc
  rcases hc with (hc | hc) | hc
  · exact hfront c hc
  · exact isIdentifierPart_of_mem_patternDigits hc
  · exact hback c hc

/-- The tokens of an expression are those of its text. -/
theorem scan_text {e : CExpr} (he : e.Grouped) : scan e.text = e.tokens := by
  induction e with
  | argument name => exact scan_identifier he.1
  | number n =>
      exact scan_word Nat.toDigits_ne_nil
        fun c hc => isIdentifierPart_of_isDecimal (isDecimal_of_mem_decimal hc)
  | pattern bits =>
      exact scan_word (List.cons_ne_nil _ _) fun c hc => isIdentifierPart_of_mem_pattern hc
  | cast target operand ih =>
      rw [text, List.cons_append, scan_open, scan_close, scan_identifier (isIdentifier_name target),
        ih he.2]
      rfl
  | binary op left right ihLeft ihRight =>
      rw [text, scan_blank, scan_blank, ihLeft he.2.2.1, ihRight he.2.2.2, scan_symbol, tokens,
        List.append_assoc]
      rfl
  | group inner ih =>
      rw [text, List.cons_append, scan_open, scan_close, ih he]
      rfl

theorem rank_le (e : CExpr) : e.rank ≤ loosest := by
  cases e with
  | binary op left right =>
      change op.rank ≤ loosest
      cases op <;> decide
  | argument | number | pattern | cast | group => exact Nat.zero_le _

/-- Nothing in front is closed by operators up to the rank. -/
def Open (rank : Nat) (waiting : List Waiting) : Prop :=
  ∀ bound, 1 ≤ bound → bound ≤ rank → ∀ e, settle bound e waiting = (e, waiting)

theorem Open.mono {rank bound : Nat} {waiting : List Waiting} (hopen : Open rank waiting)
    (hle : bound ≤ rank) : Open bound waiting :=
  fun other hpos hother => hopen other hpos (Nat.le_trans hother hle)

theorem open_paren (rank : Nat) (waiting : List Waiting) : Open rank (.paren :: waiting) :=
  fun _ _ _ _ => rfl

theorem open_left {rank : Nat} {op : COperator} (hop : rank < op.rank) (first : CExpr)
    (waiting : List Waiting) : Open rank (.left first op :: waiting) :=
  fun _ _ hbound _ => if_neg (by omega)

/-- An expression is read behind whatever it does not close.  What the reader holds behind its
tokens becomes the expression as soon as it is closed as far as the expression reaches. -/
def Reads (e : CExpr) : Prop :=
  ∀ waiting, Open e.rank waiting → ∃ last waiting',
    e.tokens.foldlM ReaderState.step (.operand waiting) = some (.operator last waiting') ∧
      ∀ bound, e.rank ≤ bound → settle bound last waiting' = settle bound e waiting

open ReaderState

theorem foldlM_step {state next : ReaderState} {token : List Char}
    (hstep : state.step token = some next) (rest : List (List Char)) :
    (token :: rest).foldlM step state = rest.foldlM step next := by
  rw [List.foldlM_cons, hstep]
  rfl

theorem reads_atom {e : CExpr} {token : List Char} (htokens : e.tokens = [token])
    (hword : ∀ c ∈ token, isIdentifierPart c = true)
    (htype : ScalarType.ofName? (String.ofList token) = none) (hatom : atom? token = some e) :
    Reads e := by
  intro waiting _
  refine ⟨e, waiting, ?_, fun _ _ => rfl⟩
  have hparen : token ≠ ['('] := by
    rintro rfl
    exact absurd (hword '(' List.mem_cons_self) (by decide)
  have hstep : step (.operand waiting) token = some (.operator e waiting) := by
    rw [step, if_neg hparen, htype, hatom]
    rfl
  rw [htokens, foldlM_step hstep]
  rfl

theorem ofName?_name (target : ScalarType) : ScalarType.ofName? target.name = some target := by
  cases target with
  | int width signed => cases width <;> cases signed <;> decide
  | f32 | f64 => decide

theorem name_ne_paren (target : ScalarType) : target.name.toList ≠ ['('] := by
  intro hparen
  have hname := isIdentifier_name target
  rw [hparen] at hname
  cases hname

theorem reads_cast {target : ScalarType} {operand : CExpr} (hrank : operand.rank = 0)
    (hoperand : Reads operand) : Reads (cast target operand) := by
  intro waiting _
  -- An operand without an operator closes nothing, so a cast may wait in front of it.
  have hfree : Open operand.rank (.cast target :: waiting) := by
    intro bound hpos hbound
    omega
  obtain ⟨last, waiting', hrun, hsettle⟩ := hoperand (.cast target :: waiting) hfree
  refine ⟨last, waiting', ?_, fun bound _ => hsettle bound (by omega)⟩
  have hopen : step (.operand waiting) ['('] = some (.operand (.paren :: waiting)) := rfl
  have hname : step (.operand (.paren :: waiting)) target.name.toList =
      some (.castEnd target waiting) := by
    rw [step, if_neg (name_ne_paren target), String.ofList_toList, ofName?_name]
    rfl
  have hclose : step (.castEnd target waiting) [')'] = some (.operand (.cast target :: waiting)) :=
    rfl
  rw [tokens, foldlM_step hopen, foldlM_step hname, foldlM_step hclose]
  exact hrun

theorem ofSymbol?_symbol (op : COperator) : COperator.ofSymbol? op.symbol.toList = some op := by
  cases op <;> decide

theorem symbol_ne_paren (op : COperator) : op.symbol.toList ≠ [')'] := by
  cases op <;> decide

theorem reads_binary {op : COperator} {left right : CExpr} (hleftRank : left.rank < op.rank)
    (hrightRank : right.rank < op.rank) (hleft : Reads left) (hright : Reads right) :
    Reads (binary op left right) := by
  intro waiting hopen
  have hpos : 1 ≤ op.rank := by omega
  obtain ⟨first, before, hfirst, hleftSettle⟩ :=
    hleft waiting (hopen.mono (Nat.le_of_lt hleftRank))
  obtain ⟨last, after, hlast, hrightSettle⟩ :=
    hright (.left left op :: waiting) (open_left hrightRank left waiting)
  -- The operator closes the left operand and nothing in front of it.
  have hoperator : step (.operator first before) op.symbol.toList =
      some (.operand (.left left op :: waiting)) := by
    rw [step, if_neg (symbol_ne_paren op), ofSymbol?_symbol, Option.map_some,
      hleftSettle op.rank (Nat.le_of_lt hleftRank), hopen op.rank hpos (Nat.le_refl _)]
  refine ⟨last, after, ?_, ?_⟩
  · rw [tokens, List.foldlM_append, hfirst]
    exact (foldlM_step hoperator right.tokens).trans hlast
  · intro bound hbound
    have hbound : op.rank ≤ bound := hbound
    rw [hrightSettle bound (by omega), settle, if_pos hbound]

theorem reads_group {inner : CExpr} (hinner : Reads inner) : Reads (group inner) := by
  intro waiting _
  obtain ⟨last, waiting', hrun, hsettle⟩ := hinner (.paren :: waiting) (open_paren _ _)
  refine ⟨group inner, waiting, ?_, fun _ _ => rfl⟩
  have hopen : step (.operand waiting) ['('] = some (.operand (.paren :: waiting)) := rfl
  have hclose : step (.operator last waiting') [')'] = some (.operator (group inner) waiting) := by
    rw [step, if_pos rfl, close?, hsettle loosest (rank_le inner)]
    rfl
  rw [tokens, List.cons_append, foldlM_step hopen, List.foldlM_append, hrun]
  exact foldlM_step hclose []

/-- The induction leaves open what waits in front, since every operator and every parenthesis
adds to it. -/
theorem reads {e : CExpr} (he : e.Grouped) : Reads e := by
  induction e with
  | argument name =>
      refine reads_atom rfl (fun c hc => isIdentifierPart_of_mem he.1 hc) ?_ (atom?_argument he.1)
      rw [String.ofList_toList]
      exact he.2
  | number n =>
      refine reads_atom rfl ?_ (ofName?_of_not_identifier (not_isIdentifier_decimal n))
        (atom?_number n)
      exact fun c hc => isIdentifierPart_of_isDecimal (isDecimal_of_mem_decimal hc)
  | pattern bits =>
      exact reads_atom rfl (fun c hc => isIdentifierPart_of_mem_pattern hc)
        (ofName?_of_not_identifier (not_isIdentifier_pattern bits)) (atom?_pattern bits)
  | cast target operand ih => exact reads_cast he.1 (ih he.2)
  | binary op left right ihLeft ihRight =>
      exact reads_binary he.1 he.2.1 (ihLeft he.2.2.1) (ihRight he.2.2.2)
  | group inner ih => exact reads_group (ih he)

/-- The text of an expression is read as the expression. -/
theorem read?_text {e : CExpr} (he : e.Grouped) : read? e.text = some e := by
  obtain ⟨last, waiting, hrun, hsettle⟩ := reads he [] fun _ _ _ _ => rfl
  have hfinish : finish? (.operator last waiting) = some e := by
    rw [finish?, hsettle loosest (rank_le e)]
    rfl
  rw [read?, scan_text he, hrun, Option.bind_some, hfinish]

example : read? "(a) & b << 8 | b".toList =
    some (binary .bitOr (binary .bitAnd (group (argument "a"))
      (binary .shiftLeft (argument "b") (number 8))) (argument "b")) := by
  decide +kernel

end CExpr

end Counterpart
