/-
The text of the arguments can be read in one way only.  A driver that reads it by the types
of the parameters gets back every value, and so no two sets of values have the same text.
-/
import Counterpart.Proofs.Except
import Counterpart.Proofs.Exchange.Reader

namespace Counterpart

/-- What a driver is to hold for a value. -/
def ArgValue.received : ArgValue → Exchange.Received
  | .scalar v => .scalar v.bits.toNat
  | .aggregate fields => .aggregate (fields.map (·.bits.toNat))
  | .null => .null
  | .buffer _ content | .bytes content => .block content
  | .cstring content => .block (content ++ [0])

/-- The value of a type that a driver holds as it does. -/
def ArgValue.ofReceived (ty : ValueType) (held : Exchange.Received) : ArgValue :=
  match ty, held with
  | .scalar ty, .scalar bits => .scalar ⟨ty, BitVec.ofNat 64 bits⟩
  | .aggregate tys, .aggregate fields =>
      .aggregate (List.zipWith (fun ty bits => ⟨ty, BitVec.ofNat 64 bits⟩) tys fields)
  | .buffer elem _ _, .block content => .buffer elem content
  | .cstring _, .block content => .cstring content.dropLast
  | .bytes _ _, .block content => .bytes content
  | _, _ => .null

namespace Exchange

/-- Behind a pointer a driver is to hold exactly the bytes of the value. -/
theorem received_of_pointee? {v : ArgValue} {content : Bytes} (hv : v.pointee? = some content) :
    v.received = .block content := by
  cases v <;> simp_all [ArgValue.pointee?, ArgValue.received]

theorem scalarText_eq_ok_iff {param : String} {ty : ScalarType} {v : ScalarValue}
    {text : List Char} :
    scalarText param ty v = .ok text ↔ v.ty = ty ∧ text = wordText v.bits := by
  unfold scalarText
  split
  · next hty => simp [hty, eq_comm]
  · next hty => simp [hty]

theorem fieldsText_cons_eq_ok {param : String} {ty : ScalarType} {tys : List ScalarType}
    {v : ScalarValue} {vs : List ScalarValue} {text : List Char}
    (htext : fieldsText param (ty :: tys) (v :: vs) = .ok text) :
    v.ty = ty ∧ ∃ others, fieldsText param tys vs = .ok others ∧
      text = wordText v.bits ++ others := by
  obtain ⟨first, hfirst, hbind⟩ := bind_eq_ok_iff.1 htext
  obtain ⟨others, hothers, hall⟩ := bind_eq_ok_iff.1 hbind
  obtain ⟨hty, rfl⟩ := scalarText_eq_ok_iff.1 hfirst
  cases hall
  exact ⟨hty, others, hothers, rfl⟩

theorem argumentsText_cons_eq_ok {p : Param} {ps : List Param} {v : ArgValue}
    {vs : List ArgValue} {text : List Char}
    (htext : argumentsText (p :: ps) (v :: vs) = .ok text) :
    ∃ first others, argumentText p v = .ok first ∧ argumentsText ps vs = .ok others ∧
      text = first ++ others := by
  obtain ⟨first, hfirst, hbind⟩ := bind_eq_ok_iff.1 htext
  obtain ⟨others, hothers, hall⟩ := bind_eq_ok_iff.1 hbind
  cases hall
  exact ⟨first, others, hfirst, hothers, rfl⟩

theorem readWord?_wordText {gap : List Char} (hgap : IsGap gap) (bits : Word)
    (rest : List Char) :
    readWord? (gap ++ (wordText bits ++ rest)) = some (bits.toNat, [' '] ++ rest) := by
  rw [wordText, List.append_assoc]
  exact readWord?_hexadecimal hgap bits.toNat (by decide) rest

theorem readWords?_fieldsText {param : String} {gap : List Char} (hgap : IsGap gap)
    {tys : List ScalarType} {vs : List ScalarValue} {text : List Char}
    (htext : fieldsText param tys vs = .ok text) (rest : List Char) :
    ∃ left, IsGap left ∧ readWords? tys.length (gap ++ (text ++ rest)) =
      some (vs.map (·.bits.toNat), left ++ rest) := by
  induction tys generalizing vs text gap with
  | nil =>
      cases vs with
      | nil =>
          cases htext
          exact ⟨gap, hgap, rfl⟩
      | cons v vs => cases htext
  | cons ty tys ih =>
      cases vs with
      | nil => cases htext
      | cons v vs =>
          obtain ⟨_, others, hothers, rfl⟩ := fieldsText_cons_eq_ok htext
          obtain ⟨left, hleft, hread⟩ := ih isGap_space hothers
          refine ⟨left, hleft, ?_⟩
          rw [List.append_assoc, List.length_cons, readWords?, readWord?_wordText hgap]
          simp only [Option.bind_eq_bind, Option.bind_some]
          rw [hread]
          rfl

/-- The group of one parameter gives back its value, whatever follows. -/
theorem readArgument?_argumentText {gap : List Char} (hgap : IsGap gap) {p : Param}
    {v : ArgValue} {text : List Char} (htext : argumentText p v = .ok text)
    (rest : List Char) :
    ∃ left, IsGap left ∧
      readArgument? p.ty (gap ++ (text ++ rest)) = some (v.received, left ++ rest) := by
  unfold argumentText at htext
  split at htext
  case h_1 ty v hty =>
    obtain ⟨_, rfl⟩ := scalarText_eq_ok_iff.1 htext
    refine ⟨[' '], isGap_space, ?_⟩
    rw [hty, readArgument?, readWord?_wordText hgap]
    rfl
  case h_2 fields values hty =>
    obtain ⟨left, hleft, hread⟩ := readWords?_fieldsText hgap htext rest
    refine ⟨left, hleft, ?_⟩
    rw [hty, readArgument?, hread]
    rfl
  case h_3 hty | h_4 hty | h_5 hty =>
    cases htext
    refine ⟨['\n'], isGap_newline, ?_⟩
    rw [hty, readArgument?, readBlock?_null hgap]
    rfl
  case h_6 elem length isMutable got content hty =>
    split at htext
    · cases htext
      rw [hty]
      exact readBlock?_blockText hgap content rest
    · cases htext
  case h_7 content hty | h_8 content hty =>
    cases htext
    rw [hty]
    exact readBlock?_blockText hgap _ rest
  case h_9 => cases htext

theorem readArguments?_argumentsText {gap : List Char} (hgap : IsGap gap) {ps : List Param}
    {vs : List ArgValue} (hlength : vs.length = ps.length) {text : List Char}
    (htext : argumentsText ps vs = .ok text) (rest : List Char) :
    ∃ left, IsGap left ∧ readArguments? ps (gap ++ (text ++ rest)) =
      some (vs.map ArgValue.received, left ++ rest) := by
  induction ps generalizing vs text gap with
  | nil =>
      obtain rfl := List.length_eq_zero_iff.1 hlength
      cases htext
      exact ⟨gap, hgap, rfl⟩
  | cons p ps ih =>
      cases vs with
      | nil => cases hlength
      | cons v vs =>
          obtain ⟨first, others, hfirst, hothers, rfl⟩ := argumentsText_cons_eq_ok htext
          obtain ⟨between, hbetween, hread⟩ :=
            readArgument?_argumentText hgap hfirst (others ++ rest)
          obtain ⟨left, hleft, hreads⟩ := ih hbetween (Nat.succ.inj hlength) hothers
          refine ⟨left, hleft, ?_⟩
          rw [List.append_assoc, readArguments?, hread]
          simp only [Option.bind_eq_bind, Option.bind_some]
          rw [hreads]
          rfl

theorem encode_eq_ok {sig : Signature} {values : List ArgValue} {text : List Char}
    (hencode : encode sig values = .ok text) :
    values.length = sig.params.length ∧
      ∃ groups, argumentsText sig.params values = .ok groups ∧ text = groups ++ ['\n'] := by
  unfold encode at hencode
  split at hencode
  · cases hencode
  · next hlength =>
      obtain ⟨groups, hgroups, hall⟩ := bind_eq_ok_iff.1 hencode
      cases hall
      exact ⟨Decidable.not_not.1 hlength, groups, hgroups, rfl⟩

theorem zipWith_fields {param : String} {tys : List ScalarType} {vs : List ScalarValue}
    {text : List Char} (htext : fieldsText param tys vs = .ok text) :
    List.zipWith (fun ty bits => (⟨ty, BitVec.ofNat 64 bits⟩ : ScalarValue)) tys
      (vs.map (·.bits.toNat)) = vs := by
  induction tys generalizing vs text with
  | nil =>
      cases vs with
      | nil => rfl
      | cons v vs => cases htext
  | cons ty tys ih =>
      cases vs with
      | nil => cases htext
      | cons v vs =>
          obtain ⟨rfl, others, hothers, _⟩ := fieldsText_cons_eq_ok htext
          simp [ih hothers]

/-- What a driver holds for a value determines the value. -/
theorem ofReceived_received {p : Param} {v : ArgValue} {text : List Char}
    (htext : argumentText p v = .ok text) : ArgValue.ofReceived p.ty v.received = v := by
  unfold argumentText at htext
  split at htext
  case h_1 ty v hty =>
    obtain ⟨rfl, _⟩ := scalarText_eq_ok_iff.1 htext
    simp [hty, ArgValue.received, ArgValue.ofReceived]
  case h_2 fields values hty =>
    simp [hty, ArgValue.received, ArgValue.ofReceived, zipWith_fields htext]
  case h_6 elem length isMutable got content hty =>
    split at htext
    · next helem => simp [hty, ArgValue.received, ArgValue.ofReceived, helem]
    · cases htext
  case h_9 => cases htext
  all_goals
    next hty => simp [hty, ArgValue.received, ArgValue.ofReceived]

theorem zipWith_ofReceived {ps : List Param} {vs : List ArgValue}
    (hlength : vs.length = ps.length) {text : List Char}
    (htext : argumentsText ps vs = .ok text) :
    List.zipWith (fun p held => ArgValue.ofReceived p.ty held) ps (vs.map ArgValue.received) =
      vs := by
  induction ps generalizing vs text with
  | nil => simp [List.length_eq_zero_iff.1 hlength]
  | cons p ps ih =>
      cases vs with
      | nil => cases hlength
      | cons v vs =>
          obtain ⟨first, others, hfirst, hothers, _⟩ := argumentsText_cons_eq_ok htext
          simp [ofReceived_received hfirst, ih (Nat.succ.inj hlength) hothers]

theorem readArguments?_encode {sig : Signature} {values : List ArgValue} {text : List Char}
    (hencode : encode sig values = .ok text) :
    ∃ rest, IsGap rest ∧
      readArguments? sig.params text = some (values.map ArgValue.received, rest) := by
  obtain ⟨hlength, groups, hgroups, rfl⟩ := encode_eq_ok hencode
  obtain ⟨left, hleft, hread⟩ :=
    readArguments?_argumentsText isGap_nil hlength hgroups ['\n']
  exact ⟨left ++ ['\n'], hleft.append isGap_newline, hread⟩

/-- A driver that reads the text of a set of arguments by the types of the parameters gets
the bits of every scalar and field, and for every pointer null or exactly the bytes behind
it; it leaves only white space.  No other set of values has the same text. -/
theorem encode_uniquely_decodable (sig : Signature) (values : List ArgValue)
    (text : List Char) (hencode : encode sig values = .ok text) :
    (∃ rest, IsGap rest ∧
      readArguments? sig.params text = some (values.map ArgValue.received, rest)) ∧
    (∀ v ∈ values, ∀ content, v.pointee? = some content → v.received = .block content) ∧
    ∀ values', encode sig values' = .ok text → values' = values := by
  refine ⟨readArguments?_encode hencode, fun v _ content => received_of_pointee?, ?_⟩
  intro values' hencode'
  obtain ⟨rest, _, hread⟩ := readArguments?_encode hencode
  obtain ⟨rest', _, hread'⟩ := readArguments?_encode hencode'
  have hreceived : values'.map ArgValue.received = values.map ArgValue.received := by
    rw [hread] at hread'
    exact (congrArg Prod.fst (Option.some.inj hread')).symm
  obtain ⟨hlength, groups, hgroups, _⟩ := encode_eq_ok hencode
  obtain ⟨hlength', groups', hgroups', _⟩ := encode_eq_ok hencode'
  rw [← zipWith_ofReceived hlength hgroups, ← zipWith_ofReceived hlength' hgroups', hreceived]

namespace Mixed

/-- Parameters of every shape, two of them empty-handed. -/
def sig : Signature :=
  ⟨"f",
    [⟨"n", .scalar (.int .w4 false), none, false, []⟩,
      ⟨"pair", .aggregate [.int .w1 true, .f32], none, false, []⟩,
      ⟨"out", .buffer (.int .w2 false) (.param "n") true, none, true, []⟩,
      ⟨"name", .cstring false, none, false, []⟩,
      ⟨"raw", .bytes 2 true, none, false, []⟩,
      ⟨"none", .buffer (.int .w1 false) (.const 0) false, none, false, []⟩],
    .void⟩

def values : List ArgValue :=
  [.scalar ⟨.int .w4 false, 0xff⟩, .aggregate [⟨.int .w1 true, 0⟩, ⟨.f32, 0x3f800000⟩], .null,
    .cstring [0x61], .bytes [0x0a, 0xbc], .buffer (.int .w1 false) []]

def text : List Char := "ff 0 3f800000 0\n1 2 6100\n1 2 0abc\n1 0 \n\n".toList

end Mixed

open Mixed in
theorem encode_uniquely_decodable_mixed :
    encode sig values = .ok text ∧
      (∃ rest, IsGap rest ∧
        readArguments? sig.params text = some (values.map ArgValue.received, rest)) ∧
      ∀ values', encode sig values' = .ok text → values' = values := by
  have hencode : encode sig values = .ok text := rfl
  have hall := encode_uniquely_decodable sig values text hencode
  exact ⟨hencode, hall.1, hall.2.2⟩

end Exchange

end Counterpart
