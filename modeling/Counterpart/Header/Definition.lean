/-
The definitions under which recompiled sources combine, cut and widen values.  Each one
takes its widths in bytes from its name and computes inside the least container type
that holds them.
-/
import Counterpart.Header.Expression

namespace Counterpart.Header

/-- The unsigned type of the least container that holds `width` bytes. -/
def containerType (width : Nat) : ScalarType :=
  .int ((Width.ofBytes? (Word.containerWidth width)).getD .w8) false

/-- The signed type of a whole word. -/
def signedWord : ScalarType := .int .w8 true

/-- The unsigned type of a whole word. -/
def unsignedWord : ScalarType := .int .w8 false

/-- An argument brought into a type, in parentheses. -/
def taken (ty : ScalarType) (name : String) : CExpr :=
  .group (.cast ty (.group (.argument name)))

/-- The low `width` bytes of an expression. -/
def masked (e : CExpr) (width : Nat) : CExpr :=
  .binary .bitAnd e (.pattern (Word.mask width))

/-- The whole body: the expression brought into the type of the result. -/
def result (ty : ScalarType) (e : CExpr) : CExpr :=
  .group (.cast ty (.group e))

/-- Puts `a`, of `high` bytes, on top of `b`, of `low` bytes. -/
def concat (high low : Nat) : CDefinition :=
  let ty := containerType (high + low)
  let upper := .binary .shiftLeft (.group (masked (taken ty "a") high)) (.number (low * 8))
  { name := s!"CONCAT{high}{low}"
    arguments := ["a", "b"]
    body := result ty (.binary .bitOr (.group upper) (.group (masked (taken ty "b") low))) }

/-- Takes `result` bytes of `a`, of `source` bytes, from byte `off` on. -/
def extract (source width : Nat) : CDefinition :=
  let offset := .group (.binary .times (.group (.argument "off")) (.number 8))
  let shifted :=
    .binary .shiftRight (.group (masked (taken (containerType source) "a") source)) offset
  { name := s!"SUB{source}{width}"
    arguments := ["a", "off"]
    body := result (containerType width) (masked (.group shifted) width) }

/-- Widens `a` from `source` to `target` bytes with zeros. -/
def zeroExtend (source target : Nat) : CDefinition :=
  { name := s!"ZEXT{source}{target}"
    arguments := ["a"]
    body := result (containerType target) (masked (taken (containerType source) "a") source) }

/-- Widens `a` from `source` to `target` bytes with copies of its top bit, which goes to
the top of a word and comes back down under a signed shift. -/
def signExtend (source target : Nat) : CDefinition :=
  let shift := .number (64 - source * 8)
  let raised := .cast signedWord (.group (.binary .shiftLeft (taken unsignedWord "a") shift))
  { name := s!"SEXT{source}{target}"
    arguments := ["a"]
    body := result (containerType target)
      (masked (.group (.binary .shiftRight raised shift)) target) }

/-- The numbers from `low` to `high`. -/
def upTo (low high : Nat) : List Nat :=
  (List.range (high + 1 - low)).map (low + ·)

/-- The concatenations whose result fits a word. -/
def concats : List CDefinition :=
  (upTo 1 7).flatMap fun high => (upTo 1 (8 - high)).map fun low => concat high low

/-- The extractions of fewer bytes than there are. -/
def extracts : List CDefinition :=
  (upTo 2 8).flatMap fun source => (upTo 1 (source - 1)).map fun width => extract source width

/-- The extensions to more bytes, by turns with zeros and with the sign. -/
def extensions : List CDefinition :=
  (upTo 1 7).flatMap fun source =>
    (upTo (source + 1) 8).flatMap fun target =>
      [zeroExtend source target, signExtend source target]

end Counterpart.Header
