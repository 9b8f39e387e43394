/-
Reading JSON.  A text is one value with blanks around it; arrays and objects that nest
deeper than `depthLimit` must be well formed but have no value.
-/
import Counterpart.Json.Basic
import Counterpart.Text.Lines
import Counterpart.Text.Numeral

namespace Counterpart.Json

open Text

/-- Whether a character may stand between the parts of a value. -/
def isSpace (c : Char) : Bool :=
  c == ' ' || c == '\n' || c == '\r' || c == '\t'

/-- The text behind the blanks at its front. -/
def skip (cs : List Char) : List Char :=
  cs.dropWhile isSpace

/-- The parts of a number literal. -/
structure NumberLiteral where
  negative : Bool
  whole : List Char
  fraction : Option (List Char)
  exponent : Option (Bool × List Char)
  deriving DecidableEq, Repr

namespace NumberLiteral

/-- A nonempty run of digits at the front. -/
def digitRun? (cs : List Char) : Option (List Char × List Char) :=
  match cs.takeWhile isDecimal with
  | [] => none
  | digits => some (digits, cs.dropWhile isDecimal)

/-- The digits behind a point, if there is a point. -/
def fraction? : List Char → Option (Option (List Char) × List Char)
  | '.' :: rest => (digitRun? rest).map fun (digits, rest) => (some digits, rest)
  | rest => some (none, rest)

/-- The sign and digits of an exponent, if there is one. -/
def exponent? : List Char → Option (Option (Bool × List Char) × List Char)
  | c :: rest =>
      if c = 'e' ∨ c = 'E' then
        let (negative, rest) := match rest with
          | '+' :: rest => (false, rest)
          | '-' :: rest => (true, rest)
          | rest => (false, rest)
        (digitRun? rest).map fun (digits, rest) => (some (negative, digits), rest)
      else some (none, c :: rest)
  | [] => some (none, [])

/-- The literal at the front of a text.  A leading zero stands alone. -/
def read? (cs : List Char) : Option (NumberLiteral × List Char) := do
  let (negative, cs) := match cs with
    | '-' :: rest => (true, rest)
    | cs => (false, cs)
  let (whole, cs) ← digitRun? cs
  if whole.head? = some '0' ∧ whole.length ≠ 1 then none
  let (fraction, cs) ← fraction? cs
  let (exponent, cs) ← exponent? cs
  some (⟨negative, whole, fraction, exponent⟩, cs)

/-- Appends digits to a significand as long as it fits sixty-four bits; also gives the
number of digits left over. -/
def accumulate (significand : Nat) : List Char → Nat × Nat
  | [] => (significand, 0)
  | c :: cs =>
      let next := significand * 10 + (c.toNat - '0'.toNat)
      if next < 2 ^ 64 then accumulate next cs else (significand, cs.length + 1)

/-- The power of ten as a number. -/
def power (n : Nat) : Double :=
  Double.ofDecimal false 1 n

/-- The significand scaled by a power of ten in steps of at most `10 ^ 308`, every
step rounded; there is none if it grows beyond the largest number. -/
def scale? (fuel : Nat) (x : Double) (exponent : Int) : Option Double :=
  if exponent.natAbs ≤ 308 then
    if 0 ≤ exponent then
      let y := x.mul (power exponent.natAbs)
      if y.isInfinite then none else some y
    else some (x.div (power exponent.natAbs))
  else if x.eq Double.zero then some x
  else if 0 ≤ exponent then none
  else match fuel with
    | 0 => some x
    | fuel + 1 => scale? fuel (x.div (power 308)) (exponent + 308)

/-- The greatest exponent that is taken as it is written. -/
def exponentLimit : Nat := 2 ^ 31 - 1

/-- The value of a literal that is not an integer. -/
def toFloat (literal : NumberLiteral) : Json :=
  let (significand, dropped) := accumulate 0 literal.whole
  let (significand, exponent) : Nat × Int := match literal.fraction with
    | none => (significand, dropped)
    | some digits =>
        let (longer, left) := accumulate significand digits
        (longer, (dropped : Int) - (digits.length - left : Nat))
  let signed (x : Double) : Json := float (if literal.negative then x.neg else x)
  match literal.exponent with
  | none => ((scale? 4 (Double.ofNat significand) exponent).map signed).getD unreadable
  | some (negative, digits) =>
      let written := (digitsFrom? 10 0 digits).getD 0
      if exponentLimit < written then
        if significand ≠ 0 ∧ !negative then unreadable else signed Double.zero
      else
        let exponent := if negative then exponent - written else exponent + written
        ((scale? 4 (Double.ofNat significand) exponent).map signed).getD unreadable

/-- The value of a literal: an integer if it is written as one and fits, else a
floating-point number.  A negative zero is the latter. -/
def value (literal : NumberLiteral) : Json :=
  match literal.fraction, literal.exponent with
  | none, none =>
      let n := (digitsFrom? 10 0 literal.whole).getD 0
      if literal.negative then
        if 0 < n ∧ n ≤ 2 ^ 63 then int (-(n : Int)) else literal.toFloat
      else if n < 2 ^ 64 then int n else literal.toFloat
  | _, _ => literal.toFloat

end NumberLiteral

/-- The character of an escape that takes one letter. -/
def escape? : Char → Option Char
  | '"' => some '"'
  | '\\' => some '\\'
  | '/' => some '/'
  | 'b' => some (Char.ofNat 8)
  | 'f' => some (Char.ofNat 12)
  | 'n' => some '\n'
  | 'r' => some '\r'
  | 't' => some '\t'
  | _ => none

/-- The code unit of four hexadecimal digits. -/
def unit? (a b c d : Char) : Option Nat :=
  digitsFrom? 16 0 [a, b, c, d]

/-- The rest of a string up to its closing quote behind what is read of it, which stands
backwards, and what follows.  The text is missing once half a surrogate pair has occurred. -/
def stringFrom (done : Option (List Char)) : List Char → Option (Option (List Char) × List Char)
  | [] => none
  | '"' :: rest => some (done.map List.reverse, rest)
  | '\\' :: 'u' :: a :: b :: c :: d :: rest =>
      match unit? a b c d with
      | none => none
      | some unit =>
          if 0xDC00 ≤ unit ∧ unit < 0xE000 then stringFrom none rest
          else if 0xD800 ≤ unit ∧ unit < 0xDC00 then
            match rest with
            | '\\' :: 'u' :: a :: b :: c :: d :: rest =>
                match unit? a b c d with
                | none => none
                | some low =>
                    if 0xDC00 ≤ low ∧ low < 0xE000 then
                      let code := 0x10000 + (unit - 0xD800) * 0x400 + (low - 0xDC00)
                      stringFrom (done.map (Char.ofNat code :: ·)) rest
                    else stringFrom none rest
            | rest => stringFrom none rest
          else stringFrom (done.map (Char.ofNat unit :: ·)) rest
  | '\\' :: c :: rest =>
      match escape? c with
      | none => none
      | some c => stringFrom (done.map (c :: ·)) rest
  | c :: rest => if c.toNat < 32 then none else stringFrom (done.map (c :: ·)) rest

/-- A string up to its closing quote, and what follows. -/
def stringBody (cs : List Char) : Option (Option (List Char) × List Char) :=
  stringFrom (some []) cs

/-- The name of a member at the front of a text, between quotes, and what follows its colon.
The name is missing if half a surrogate pair occurs in it. -/
def name? : List Char → Option (Option String × List Char)
  | '"' :: rest => do
      let (text, rest) ← stringBody rest
      match skip rest with
      | ':' :: rest => some (text.map String.ofList, skip rest)
      | _ => none
  | _ => none

/-- Reads a value that is neither an array nor an object. -/
def scalar? (cs : List Char) : Option (Json × List Char) :=
  match cs with
  | '"' :: rest =>
      (stringBody rest).map fun
        | (some text, rest) => (string (String.ofList text), rest)
        | (none, rest) => (unreadable, rest)
  | _ =>
      if let some rest := dropFront? "null".toList cs then some (null, rest)
      else if let some rest := dropFront? "true".toList cs then some (bool true, rest)
      else if let some rest := dropFront? "false".toList cs then some (bool false, rest)
      else (NumberLiteral.read? cs).map fun (literal, rest) => (literal.value, rest)

/-- Passes over the rest of open arrays and objects without reading them, and gives what
follows the outermost one.  The brackets that close them are given innermost first, and
`fresh` tells that the innermost one has just been opened.  Every step takes a character. -/
def pass? : (fuel : Nat) → (fresh : Bool) → (closers : List Char) → List Char →
    Option (List Char)
  | _, _, [], cs => some cs
  | 0, _, _ :: _, _ => none
  | fuel + 1, fresh, closer :: outer, cs =>
      match skip cs with
      | [] => none
      | c :: rest =>
          if c = closer then pass? fuel false outer rest
          else do
            let item ←
              if fresh then some (c :: rest) else if c = ',' then some (skip rest) else none
            let value ← if closer = ']' then some item else (name? item).map (·.2)
            match value with
            | '[' :: rest => pass? fuel true (']' :: closer :: outer) rest
            | '\x7b' :: rest => pass? fuel true ('\x7d' :: closer :: outer) rest
            | _ =>
                let (_, rest) ← scalar? value
                pass? fuel false (closer :: outer) rest

/-- Passes over an array or an object, whose opening bracket is behind. -/
def passFrom (closer : Char) (cs : List Char) : Option (Json × List Char) :=
  (pass? (cs.length + 1) true [closer] cs).map fun rest => (unreadable, rest)

/-- Reads values separated by commas up to a closing bracket. -/
def items? (element? : List Char → Option (Json × List Char)) :
    Nat → List Char → Option (List Json × List Char)
  | 0, _ => none
  | fuel + 1, cs => do
      let (item, cs) ← element? (skip cs)
      match skip cs with
      | ']' :: cs => some ([item], cs)
      | ',' :: cs => do
          let (items, cs) ← items? element? fuel cs
          some (item :: items, cs)
      | _ => none

/-- Reads named values separated by commas up to a closing brace.  There are none if a name
is missing. -/
def members? (element? : List Char → Option (Json × List Char)) :
    Nat → List Char → Option (Option (List (String × Json)) × List Char)
  | 0, _ => none
  | fuel + 1, cs => do
      let (name, cs) ← name? (skip cs)
      let (value, cs) ← element? cs
      let member := name.map fun name => (name, value)
      match skip cs with
      | '\x7d' :: cs => some (member.map ([·]), cs)
      | ',' :: cs => do
          let (members, cs) ← members? element? fuel cs
          some (member.bind fun member => members.map (member :: ·), cs)
      | _ => none

/-- Reads a value.  Arrays and objects that nest deeper than `depth` are passed over. -/
def value? : (depth : Nat) → List Char → Option (Json × List Char)
  | 0, cs =>
      match cs with
      | '[' :: rest => passFrom ']' rest
      | '\x7b' :: rest => passFrom '\x7d' rest
      | _ => scalar? cs
  | depth + 1, cs =>
      match cs with
      | '[' :: rest =>
          match skip rest with
          | ']' :: rest => some (array [], rest)
          | inner => (items? (value? depth) inner.length inner).map fun (items, rest) =>
              (array items, rest)
      | '\x7b' :: rest =>
          match skip rest with
          | '\x7d' :: rest => some (object [], rest)
          | inner => (members? (value? depth) inner.length inner).map fun
              | (some members, rest) => (object members, rest)
              | (none, rest) => (unreadable, rest)
      | _ => scalar? cs

/-- How deep arrays and objects are read. -/
def depthLimit : Nat := 127

/-- The value of a text whose arrays and objects are read to a depth. -/
def readNested? (depth : Nat) (cs : List Char) : Option Json :=
  match value? depth (skip cs) with
  | some (value, rest) => if (skip rest).isEmpty then some value else none
  | none => none

/-- The value of a text. -/
def read? (cs : List Char) : Option Json :=
  readNested? depthLimit cs

end Counterpart.Json
