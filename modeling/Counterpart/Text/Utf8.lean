/-
Reading bytes as UTF-8.  A byte sequence that is not well formed is replaced:
each longest start of a character that cannot be completed, and each byte that
starts no character, becomes one replacement character.
-/
import Counterpart.Text.Hex

namespace Counterpart.Text

/-- What stands for bytes that are no character. -/
def replacement : Char :=
  Char.ofNat 0xFFFD

/-- Whether a byte continues a character. -/
def isContinuation (b : UInt8) : Bool :=
  0x80 ≤ b && b ≤ 0xBF

/-- The number of bytes of the character that a leading byte opens, with the
range allowed for the second of them. -/
@[inline] def leadingShape (b : UInt8) : Option (Nat × UInt8 × UInt8) :=
  if b < 0x80 then some (1, 0x80, 0xBF)
  else if b < 0xC2 then none
  else if b < 0xE0 then some (2, 0x80, 0xBF)
  else if b = 0xE0 then some (3, 0xA0, 0xBF)
  else if b = 0xED then some (3, 0x80, 0x9F)
  else if b < 0xF0 then some (3, 0x80, 0xBF)
  else if b = 0xF0 then some (4, 0x90, 0xBF)
  else if b < 0xF4 then some (4, 0x80, 0xBF)
  else if b = 0xF4 then some (4, 0x80, 0x8F)
  else none

/-- The payload of a continuation byte on top of the bits before it. -/
def pushSix (value : Nat) (b : UInt8) : Nat :=
  value * 64 + b.toNat % 64

/-- The character at the front of nonempty bytes, or `none` where there is none,
and how many further bytes it takes up. -/
@[inline] def character (b : UInt8) (rest : Bytes) : Option Char × Nat :=
  match leadingShape b with
  | none => (none, 0)
  | some (size, low, high) =>
      if size = 1 then (some (Char.ofNat b.toNat), 0)
      else match rest with
        | [] => (none, 0)
        | b₂ :: rest₂ =>
            if b₂ < low ∨ high < b₂ then (none, 0)
            else if size = 2 then (some (Char.ofNat (pushSix (b.toNat % 32) b₂)), 1)
            else match rest₂ with
              | [] => (none, 1)
              | b₃ :: rest₃ =>
                  if !isContinuation b₃ then (none, 1)
                  else if size = 3 then
                    (some (Char.ofNat (pushSix (pushSix (b.toNat % 16) b₂) b₃)), 2)
                  else match rest₃ with
                    | [] => (none, 2)
                    | b₄ :: _ =>
                        if !isContinuation b₄ then (none, 2)
                        else (some (Char.ofNat
                          (pushSix (pushSix (pushSix (b.toNat % 8) b₂) b₃) b₄)), 3)

/-- The bytes as characters behind those that are read, which stand backwards. -/
def charactersFrom (done : List (Option Char)) : Bytes → List (Option Char)
  | [] => done.reverse
  | b :: rest =>
      match character b rest with
      | (c, taken) => charactersFrom (c :: done) (rest.drop taken)
  termination_by bytes => bytes.length
  decreasing_by simp only [List.length_cons, List.length_drop]; omega

/-- The bytes as a list of characters, `none` for each ill-formed part. -/
def characters (bytes : Bytes) : List (Option Char) :=
  charactersFrom [] bytes

/-- The text of the bytes with every ill-formed part replaced. -/
def lossy (bytes : Bytes) : List Char :=
  (characters bytes).map (·.getD replacement)

/-- The text of the bytes if all of them are well formed. -/
def utf8? (bytes : Bytes) : Option (List Char) :=
  (characters bytes).mapM id

/-- The bytes of one character. -/
def encodeChar (c : Char) : Bytes :=
  String.utf8EncodeChar c

/-- The bytes of a text. -/
def utf8 (cs : List Char) : Bytes :=
  cs.flatMap encodeChar

end Counterpart.Text
