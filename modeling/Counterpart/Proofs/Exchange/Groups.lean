/-
The groups in which the arguments are written, one for each operation of the driver.  An operation
takes the group that is written for it, whatever white space is in front and whatever follows.
-/
import Counterpart.Proofs.Exchange.Decoding

namespace Counterpart.Exchange

open Text

/-- One operation of a driver on its input. -/
inductive Operation where
  | word
  | block
  deriving DecidableEq, Repr

/-- The operations for a type: a word for a scalar, one for each field of a structure, and a block
for a pointer. -/
def operations : ValueType → List Operation
  | .scalar _ => [.word]
  | .aggregate fields => List.replicate fields.length .word
  | .buffer _ _ _ | .cstring _ | .bytes _ _ => [.block]

/-- What an operation leaves of the input. -/
def Operation.rest? : Operation → List Char → Option (List Char)
  | .word, cs => (readWord? cs).map (·.2)
  | .block, cs => (readBlock? cs).map (·.2)

/-- An operation reads exactly this group of the input, apart from white space around it. -/
def Operation.Takes (op : Operation) (group : List Char) : Prop :=
  ∀ gap rest, IsGap gap →
    ∃ left, IsGap left ∧ op.rest? (gap ++ (group ++ rest)) = some (left ++ rest)

/-- The groups of a value: a word for every scalar in it, or the block behind a pointer. -/
def groups : ArgValue → List (List Char)
  | .scalar v => [wordText v.bits]
  | .aggregate fields => fields.map (wordText ·.bits)
  | .null => [['0', '\n']]
  | .buffer _ content | .bytes content => [blockText content]
  | .cstring content => [blockText (content ++ [0])]

theorem takes_wordText (bits : Word) : Operation.word.Takes (wordText bits) := by
  intro gap rest hgap
  refine ⟨[' '], isGap_space, ?_⟩
  rw [Operation.rest?, readWord?_wordText hgap]
  rfl

theorem takes_null : Operation.block.Takes ['0', '\n'] := by
  intro gap rest hgap
  refine ⟨['\n'], isGap_newline, ?_⟩
  rw [Operation.rest?, readBlock?_null hgap]
  rfl

theorem takes_blockText (content : Bytes) : Operation.block.Takes (blockText content) := by
  intro gap rest hgap
  obtain ⟨left, hleft, hread⟩ := readBlock?_blockText hgap content rest
  refine ⟨left, hleft, ?_⟩
  rw [Operation.rest?, hread]
  rfl

theorem fieldsText_groups {param : String} {tys : List ScalarType} {vs : List ScalarValue}
    {text : List Char} (htext : fieldsText param tys vs = .ok text) :
    text = (vs.map (wordText ·.bits)).flatten ∧
      List.Forall₂ Operation.Takes (List.replicate tys.length .word)
        (vs.map (wordText ·.bits)) := by
  induction tys generalizing vs text with
  | nil =>
      cases vs with
      | nil =>
          cases htext
          exact ⟨rfl, .nil⟩
      | cons v vs => cases htext
  | cons ty tys ih =>
      cases vs with
      | nil => cases htext
      | cons v vs =>
          obtain ⟨_, others, hothers, rfl⟩ := fieldsText_cons_eq_ok htext
          obtain ⟨rfl, hrest⟩ := ih hothers
          exact ⟨rfl, .cons (takes_wordText v.bits) hrest⟩

theorem argumentText_groups {p : Param} {v : ArgValue} {text : List Char}
    (htext : argumentText p v = .ok text) :
    text = (groups v).flatten ∧ List.Forall₂ Operation.Takes (operations p.ty) (groups v) := by
  unfold argumentText at htext
  split at htext
  case h_1 ty v hty =>
    obtain ⟨_, rfl⟩ := scalarText_eq_ok_iff.1 htext
    rw [hty]
    exact ⟨List.flatten_singleton.symm, .cons (takes_wordText v.bits) .nil⟩
  case h_2 fields values hty =>
    rw [hty]
    exact fieldsText_groups htext
  case h_3 hty | h_4 hty | h_5 hty =>
    cases htext
    rw [hty]
    exact ⟨rfl, .cons takes_null .nil⟩
  case h_6 elem length isMutable got content hty =>
    split at htext
    · cases htext
      rw [hty]
      exact ⟨List.flatten_singleton.symm, .cons (takes_blockText content) .nil⟩
    · cases htext
  case h_7 content hty | h_8 content hty =>
    cases htext
    rw [hty]
    exact ⟨List.flatten_singleton.symm, .cons (takes_blockText _) .nil⟩
  case h_9 => cases htext

theorem argumentsText_groups {ps : List Param} {vs : List ArgValue}
    (hlength : vs.length = ps.length) {text : List Char} (htext : argumentsText ps vs = .ok text) :
    text = (vs.flatMap groups).flatten ∧
      List.Forall₂ (fun p v => List.Forall₂ Operation.Takes (operations p.ty) (groups v))
        ps vs := by
  induction ps generalizing vs text with
  | nil =>
      obtain rfl := List.length_eq_zero_iff.1 hlength
      cases htext
      exact ⟨rfl, .nil⟩
  | cons p ps ih =>
      cases vs with
      | nil => cases hlength
      | cons v vs =>
          obtain ⟨first, others, hfirst, hothers, rfl⟩ := argumentsText_cons_eq_ok htext
          obtain ⟨rfl, htakes⟩ := argumentText_groups hfirst
          obtain ⟨rfl, hrest⟩ := ih (Nat.succ.inj hlength) hothers
          exact ⟨by rw [List.flatMap_cons, List.flatten_append], .cons htakes hrest⟩

/-- The arguments are written group by group, and every parameter has one operation for each group
of its value. -/
theorem encode_groups {sig : Signature} {values : List ArgValue} {text : List Char}
    (hencode : encode sig values = .ok text) :
    text = (values.flatMap groups).flatten ++ ['\n'] ∧
      List.Forall₂ (fun p v => List.Forall₂ Operation.Takes (operations p.ty) (groups v))
        sig.params values := by
  obtain ⟨hlength, written, hwritten, rfl⟩ := encode_eq_ok hencode
  obtain ⟨rfl, htakes⟩ := argumentsText_groups hlength hwritten
  exact ⟨rfl, htakes⟩

end Counterpart.Exchange
