/-
Arguments read off the line that shows them.  A value ends in front of the comma behind it
whatever it holds: numbers and bytes hold no comma, lists end at their bracket, and a string ends
at the first quotation mark that is not escaped.
-/
import Counterpart.Proofs.Argument.Elements
import Counterpart.Proofs.Forall
import Counterpart.Proofs.History.Row
import Counterpart.Proofs.Scalar.Integer
import Counterpart.Proofs.Text.Identifier
import Counterpart.Proofs.Text.Occurrence
import Counterpart.Proofs.Text.Padding

namespace Counterpart

/-- The scalar types in a type. -/
def ValueType.scalars : ValueType → List ScalarType
  | scalar ty => [ty]
  | buffer elem _ _ => [elem]
  | cstring _ | bytes _ _ => []
  | aggregate fields => fields

namespace ScalarValue

/-- An integer without bits outside its type. -/
structure IsInteger (v : ScalarValue) : Prop where
  isInteger : v.ty.isInteger = true
  fits : v.Fits

theorem IsOf.isInteger {ty : ScalarType} {v : ScalarValue} (hv : v.IsOf ty)
    (hty : ty.isInteger = true) : v.IsInteger :=
  ⟨hv.1.symm ▸ hty, hv.2⟩

theorem IsInteger.text_eq {v : ScalarValue} (hv : v.IsInteger) :
    v.text = Text.integer v.toInt := by
  obtain ⟨ty, bits⟩ := v
  cases ty with
  | int width signed => rfl
  | f32 => cases hv.isInteger
  | f64 => cases hv.isInteger

theorem IsInteger.ofInt_toInt {v : ScalarValue} (hv : v.IsInteger) : ofInt v.ty v.toInt = v :=
  ScalarValue.ofInt_toInt (toNat_lt_of_isOf ⟨rfl, hv.fits⟩)

/-- An integer is known by its type and its text. -/
theorem IsInteger.eq_of_text {v w : ScalarValue} (hv : v.IsInteger) (hw : w.IsInteger)
    (hty : v.ty = w.ty) (htext : v.text = w.text) : v = w := by
  rw [hv.text_eq, hw.text_eq] at htext
  rw [← hv.ofInt_toInt, ← hw.ofInt_toInt, hty, Text.integer_inj htext]

theorem IsInteger.notMem_text {v : ScalarValue} (hv : v.IsInteger) {c : Char} (hminus : c ≠ '-')
    (hdigit : Text.isDecimal c = false) : c ∉ v.text := by
  intro hc
  rw [hv.text_eq] at hc
  rcases Text.mem_integer hc with hc | hc
  · exact hminus hc
  · rw [hc] at hdigit
    cases hdigit

theorem IsInteger.comma_notMem_text {v : ScalarValue} (hv : v.IsInteger) : ',' ∉ v.text :=
  hv.notMem_text (by decide) (by decide)

theorem IsInteger.text_ne_nil {v : ScalarValue} (hv : v.IsInteger) : v.text ≠ [] := by
  rw [hv.text_eq]
  cases v.toInt with
  | ofNat n => exact Nat.toDigits_ne_nil
  | negSucc n => exact List.cons_ne_nil _ _

/-- Integers are known by their types and their texts. -/
theorem eq_of_map_text {vs ws : List ScalarValue} (hvs : ∀ v ∈ vs, v.IsInteger)
    (hws : ∀ w ∈ ws, w.IsInteger) (htypes : vs.map (·.ty) = ws.map (·.ty))
    (htexts : vs.map (·.text) = ws.map (·.text)) : vs = ws := by
  induction vs generalizing ws with
  | nil => exact (List.map_eq_nil_iff.1 htypes.symm).symm
  | cons v vs ih =>
      cases ws with
      | nil => cases htypes
      | cons w ws =>
          obtain ⟨hv, hvs⟩ := List.forall_mem_cons.1 hvs
          obtain ⟨hw, hws⟩ := List.forall_mem_cons.1 hws
          obtain ⟨hty, htypes⟩ := List.cons.inj htypes
          obtain ⟨htext, htexts⟩ := List.cons.inj htexts
          rw [hv.eq_of_text hw hty htext, ih hvs hws htypes htexts]

end ScalarValue

namespace ArgValue

section List

variable {vs ws : List ScalarValue}

theorem listText_eq_join (vs : List ScalarValue) :
    listText vs = Text.join [','] (vs.map (·.text)) := by
  induction vs with
  | nil => rfl
  | cons v vs ih =>
      cases vs with
      | nil => rfl
      | cons w vs =>
          have hmore : (w :: vs).map (·.text) ≠ [] := List.cons_ne_nil _ _
          rw [List.map_cons, Text.join_cons_of_ne_nil hmore, ← ih]
          rfl

theorem notMem_listText (hvs : ∀ v ∈ vs, v.IsInteger) {c : Char} (hcomma : c ≠ ',')
    (hminus : c ≠ '-') (hdigit : Text.isDecimal c = false) : c ∉ listText vs := by
  intro hc
  rw [listText_eq_join] at hc
  rcases Text.mem_join hc with hc | ⟨text, htext, hc⟩
  · exact hcomma hc
  · obtain ⟨v, hv, rfl⟩ := List.mem_map.1 htext
    exact (hvs v hv).notMem_text hminus hdigit hc

theorem pieces_listText (hvs : ∀ v ∈ vs, v.IsInteger) (hne : vs ≠ []) :
    Text.pieces ',' (listText vs) = vs.map (·.text) := by
  rw [listText_eq_join]
  apply Text.pieces_join
  · rwa [Ne, List.map_eq_nil_iff]
  · intro text htext
    obtain ⟨v, hv, rfl⟩ := List.mem_map.1 htext
    exact (hvs v hv).comma_notMem_text

theorem listText_ne_nil (hvs : ∀ v ∈ vs, v.IsInteger) (hne : vs ≠ []) : listText vs ≠ [] := by
  intro hnil
  have hpieces := pieces_listText hvs hne
  obtain ⟨v, rest, rfl⟩ := List.exists_cons_of_ne_nil hne
  rw [hnil, List.map_cons] at hpieces
  exact (hvs v List.mem_cons_self).text_ne_nil (List.cons.inj hpieces).1.symm

/-- The texts of integers are cut out of their list at its commas. -/
theorem map_text_of_listText (hvs : ∀ v ∈ vs, v.IsInteger) (hws : ∀ w ∈ ws, w.IsInteger)
    (htext : listText vs = listText ws) : vs.map (·.text) = ws.map (·.text) := by
  by_cases hv : vs = []
  · by_cases hw : ws = []
    · rw [hv, hw]
    · exact absurd (htext.symm.trans (congrArg listText hv)) (listText_ne_nil hws hw)
  · by_cases hw : ws = []
    · exact absurd (htext.trans (congrArg listText hw)) (listText_ne_nil hvs hv)
    · rw [← pieces_listText hvs hv, ← pieces_listText hws hw, htext]

/-- A list of integers ends at the bracket behind it. -/
theorem map_text_of_enclosed {close : Char} (hcomma : close ≠ ',') (hminus : close ≠ '-')
    (hdigit : Text.isDecimal close = false) (hvs : ∀ v ∈ vs, v.IsInteger)
    (hws : ∀ w ∈ ws, w.IsInteger) {rest rest' : List Char}
    (heq : listText vs ++ close :: rest = listText ws ++ close :: rest') :
    vs.map (·.text) = ws.map (·.text) ∧ rest = rest' := by
  obtain ⟨htext, hrest⟩ := Text.eq_of_append_cons (notMem_listText hvs hcomma hminus hdigit)
    (notMem_listText hws hcomma hminus hdigit) heq
  exact ⟨map_text_of_listText hvs hws htext, hrest⟩

end List

section Escaped

/-- The byte an escaped text opens with, and what stands behind it. -/
def unescapeByte? : List Char → Option (UInt8 × List Char)
  | '\\' :: 'x' :: high :: low :: rest =>
      (Text.natBelow? 256 16 [high, low]).map fun n => (UInt8.ofNat n, rest)
  | '\\' :: c :: rest => some (UInt8.ofNat c.toNat, rest)
  | c :: rest => some (UInt8.ofNat c.toNat, rest)
  | [] => none

theorem toNat_char {b : UInt8} : (Char.ofNat b.toNat).toNat = b.toNat := by
  have hb : b.toNat < 256 := b.toNat_lt
  have hvalid : b.toNat.isValidChar := .inl (by omega)
  rw [Char.ofNat, dif_pos hvalid]
  rfl

theorem char_ne {b d : UInt8} (hne : b ≠ d) : Char.ofNat b.toNat ≠ Char.ofNat d.toNat := by
  intro heq
  have hnumber := congrArg Char.toNat heq
  rw [toNat_char, toNat_char] at hnumber
  exact hne (UInt8.toNat_inj.1 hnumber)

theorem unescapeByte?_escapeByte (b : UInt8) (rest : List Char) :
    unescapeByte? (escapeByte b ++ rest) = some (b, rest) := by
  have hb : b.toNat < 256 := b.toNat_lt
  unfold escapeByte
  split
  · next hquote => rw [hquote]; rfl
  · next hquote =>
    split
    · next hslash => rw [hslash]; rfl
    · next hslash =>
      split
      · have hchar : Char.ofNat b.toNat ≠ '\\' := @char_ne b 0x5C hslash
        rw [List.singleton_append, unescapeByte?]
        · rw [toNat_char, UInt8.ofNat_toNat]
        · intro _ _ _ heq
          exact absurd heq hchar
        · intro _ _ heq
          exact absurd heq hchar
      · have hread := Text.natBelow?_of_digits (Text.plus_notMem_hexByte b)
          (Text.digits?_hexByte b) hb
        rw [Text.hexByte_eq] at hread ⊢
        simp only [List.cons_append, List.nil_append, unescapeByte?, hread, Option.map_some,
          UInt8.ofNat_toNat]

/-- No escaped byte opens with the mark that ends a string. -/
theorem escapeByte_append_ne (b : UInt8) (rest tail : List Char) :
    escapeByte b ++ rest ≠ '"' :: tail := by
  unfold escapeByte
  split
  · simp
  · next hquote =>
    split
    · simp
    · split
      · have hchar : Char.ofNat b.toNat ≠ '"' := @char_ne b 0x22 hquote
        simp [hchar]
      · simp

/-- A string ends at the first mark that is not escaped. -/
theorem eq_of_escaped {front back : Bytes} {rest rest' : List Char}
    (heq : front.flatMap escapeByte ++ '"' :: rest = back.flatMap escapeByte ++ '"' :: rest') :
    front = back ∧ rest = rest' := by
  induction front generalizing back with
  | nil =>
      cases back with
      | nil => exact ⟨rfl, (List.cons.inj heq).2⟩
      | cons b back =>
          rw [List.flatMap_cons, List.append_assoc] at heq
          exact absurd heq.symm (escapeByte_append_ne b _ rest)
  | cons a front ih =>
      rw [List.flatMap_cons, List.append_assoc] at heq
      cases back with
      | nil => exact absurd heq (escapeByte_append_ne a _ rest')
      | cons b back =>
          rw [List.flatMap_cons, List.append_assoc] at heq
          have hread := congrArg unescapeByte? heq
          rw [unescapeByte?_escapeByte, unescapeByte?_escapeByte] at hread
          obtain ⟨hfirst, hothers⟩ := Prod.mk.inj (Option.some.inj hread)
          obtain ⟨hfront, hrest⟩ := ih hothers
          exact ⟨by rw [hfirst, hfront], hrest⟩

end Escaped

section Value

/-- Nothing follows a value, or the comma in front of the next one. -/
def Ends (rest : List Char) : Prop :=
  ∀ c ∈ rest.head?, (c != ',') = false

theorem eq_of_append_ends {front back rest rest' : List Char} (hfront : ',' ∉ front)
    (hback : ',' ∉ back) (hrest : Ends rest) (hrest' : Ends rest')
    (heq : front ++ rest = back ++ rest') : front = back ∧ rest = rest' := by
  have hinside : ∀ {text : List Char}, ',' ∉ text → ∀ c ∈ text, (c != ',') = true := by
    intro text htext c hc
    rw [bne_iff_ne]
    rintro rfl
    exact htext hc
  exact Text.eq_of_append_eq (hinside hfront) (hinside hback) hrest hrest' heq

theorem comma_notMem_hexBytes (content : Bytes) : ',' ∉ Text.hexBytes content := by
  have hdigit : ∀ d < 16, ',' ≠ d.digitChar := by decide
  intro hc
  obtain ⟨d, hd, hcomma⟩ := Text.exists_digit_of_mem_hexBytes hc
  exact hdigit d hd hcomma

/-- Two buffers of integers whose elements are shown alike hold the same bytes. -/
theorem buffer_eq_of_text {elem : ScalarType} (helem : elem.isInteger = true) {a b : Bytes}
    {vs ws : List ScalarValue} (ha : elem.size ∣ a.length) (hb : elem.size ∣ b.length)
    (hvs : elements? elem a = some vs) (hws : elements? elem b = some ws)
    {rest rest' : List Char} (heq : listText vs ++ ']' :: rest = listText ws ++ ']' :: rest') :
    a = b ∧ rest = rest' := by
  obtain ⟨hbytes, hof⟩ := eq_flatMap_toBytes ha hvs
  obtain ⟨hbytes', hof'⟩ := eq_flatMap_toBytes hb hws
  have hints : ∀ v ∈ vs, v.IsInteger := fun v hv => (hof v hv).isInteger helem
  have hints' : ∀ w ∈ ws, w.IsInteger := fun w hw => (hof' w hw).isInteger helem
  obtain ⟨htexts, hrest⟩ :=
    map_text_of_enclosed (by decide) (by decide) (by decide) hints hints' heq
  have hlength : vs.length = ws.length := by
    rw [← List.length_map (·.text), htexts, List.length_map]
  have htypes : vs.map (·.ty) = ws.map (·.ty) := by
    rw [List.map_eq_replicate_iff.2 fun v hv => (hof v hv).1,
      List.map_eq_replicate_iff.2 fun w hw => (hof' w hw).1, hlength]
  have hsame := ScalarValue.eq_of_map_text hints hints' htypes htexts
  exact ⟨by rw [hbytes, hbytes', hsame], hrest⟩

theorem map_ty_of_isOf {fields : List ScalarType} {vs : List ScalarValue}
    (hvs : List.Forall₂ ScalarValue.IsOf fields vs) : vs.map (·.ty) = fields := by
  rw [map_eq_of_forall₂ hvs fun _ _ hv => hv.1, List.map_id']

theorem isInteger_of_isOf {fields : List ScalarType} {vs : List ScalarValue}
    (hvs : List.Forall₂ ScalarValue.IsOf fields vs) (hints : ∀ ty ∈ fields, ty.isInteger = true) :
    ∀ v ∈ vs, v.IsInteger := by
  intro v hv
  obtain ⟨ty, hty, hof⟩ := exists_mem_of_forall₂ hvs hv
  exact hof.isInteger (hints ty hty)

/-- Two aggregates of integers whose fields are shown alike hold the same fields. -/
theorem aggregate_eq_of_text {fields : List ScalarType} (hints : ∀ ty ∈ fields, ty.isInteger = true)
    {vs ws : List ScalarValue} (hvs : List.Forall₂ ScalarValue.IsOf fields vs)
    (hws : List.Forall₂ ScalarValue.IsOf fields ws) {rest rest' : List Char}
    (heq : listText vs ++ '\x7d' :: rest = listText ws ++ '\x7d' :: rest') :
    vs = ws ∧ rest = rest' := by
  have hvints := isInteger_of_isOf hvs hints
  have hwints := isInteger_of_isOf hws hints
  obtain ⟨htexts, hrest⟩ :=
    map_text_of_enclosed (by decide) (by decide) (by decide) hvints hwints heq
  have htypes : vs.map (·.ty) = ws.map (·.ty) := by rw [map_ty_of_isOf hvs, map_ty_of_isOf hws]
  exact ⟨ScalarValue.eq_of_map_text hvints hwints htypes htexts, hrest⟩

/-- No value but the null pointer is shown as it is. -/
theorem Suits.eq_null {ty : ValueType} {v : ArgValue} (hv : v.Suits ty)
    (hpointer : ty.isPointer = true) {text rest rest' : List Char} (htext : v.text? = some text)
    (heq : "NULL".toList ++ rest = text ++ rest') : v = .null := by
  cases hv with
  | scalar _ | aggregate _ => cases hpointer
  | buffer _ =>
      obtain ⟨values, _, rfl⟩ := Option.map_eq_some_iff.1 htext
      simp at heq
  | cstring | bytes =>
      obtain rfl := Option.some.inj htext
      simp at heq
  | null _ => rfl

/-- Two values of a type without floating-point numbers that are shown alike are the same, and so
is what follows them. -/
theorem Suits.eq_of_text {ty : ValueType} (hints : ∀ t ∈ ty.scalars, t.isInteger = true)
    {v w : ArgValue} (hv : v.Suits ty) (hw : w.Suits ty) {front back rest rest' : List Char}
    (hfront : v.text? = some front) (hback : w.text? = some back) (hrest : Ends rest)
    (hrest' : Ends rest') (heq : front ++ rest = back ++ rest') : v = w ∧ rest = rest' := by
  have hnull : ty.isPointer = true → v = .null → w = .null := by
    rintro hpointer rfl
    obtain rfl := Option.some.inj hfront
    exact hw.eq_null hpointer hback heq
  have hnull' : ty.isPointer = true → w = .null → v = .null := by
    rintro hpointer rfl
    obtain rfl := Option.some.inj hback
    exact hv.eq_null hpointer hfront heq.symm
  cases hv with
  | scalar hv =>
      cases hw with
      | scalar hw =>
          obtain rfl := Option.some.inj hfront
          obtain rfl := Option.some.inj hback
          have hint := hv.isInteger (hints _ List.mem_cons_self)
          have hint' := hw.isInteger (hints _ List.mem_cons_self)
          obtain ⟨htext, hrest⟩ :=
            eq_of_append_ends hint.comma_notMem_text hint'.comma_notMem_text hrest hrest' heq
          exact ⟨by rw [hint.eq_of_text hint' (hv.1.trans hw.1.symm) htext], hrest⟩
      | null hpointer => cases hpointer
  | buffer hwhole =>
      cases hw with
      | buffer hwhole' =>
          obtain ⟨vs, hvs, rfl⟩ := Option.map_eq_some_iff.1 hfront
          obtain ⟨ws, hws, rfl⟩ := Option.map_eq_some_iff.1 hback
          simp only [List.cons_append, List.append_assoc, List.nil_append, List.cons.injEq,
            true_and] at heq
          obtain ⟨rfl, hrest⟩ :=
            buffer_eq_of_text (hints _ List.mem_cons_self) hwhole hwhole' hvs hws heq
          exact ⟨rfl, hrest⟩
      | null _ => cases hnull' rfl rfl
  | cstring =>
      cases hw with
      | cstring =>
          obtain rfl := Option.some.inj hfront
          obtain rfl := Option.some.inj hback
          simp only [List.cons_append, List.append_assoc, List.nil_append, List.cons.injEq,
            true_and] at heq
          obtain ⟨rfl, hrest⟩ := eq_of_escaped heq
          exact ⟨rfl, hrest⟩
      | null _ => cases hnull' rfl rfl
  | bytes =>
      cases hw with
      | bytes =>
          obtain rfl := Option.some.inj hfront
          obtain rfl := Option.some.inj hback
          rw [List.append_assoc, List.append_assoc] at heq
          obtain ⟨htext, hrest⟩ := eq_of_append_ends (comma_notMem_hexBytes _)
            (comma_notMem_hexBytes _) hrest hrest' (List.append_cancel_left heq)
          exact ⟨by rw [Text.hexBytes_inj htext], hrest⟩
      | null _ => cases hnull' rfl rfl
  | aggregate hfields =>
      cases hw with
      | aggregate hfields' =>
          obtain rfl := Option.some.inj hfront
          obtain rfl := Option.some.inj hback
          simp only [List.cons_append, List.append_assoc, List.nil_append, List.cons.injEq,
            true_and] at heq
          obtain ⟨rfl, hrest⟩ := aggregate_eq_of_text hints hfields hfields' heq
          exact ⟨rfl, hrest⟩
      | null hpointer => cases hpointer
  | null hpointer =>
      obtain rfl := hnull hpointer rfl
      obtain rfl := Option.some.inj hfront
      obtain rfl := Option.some.inj hback
      exact ⟨rfl, List.append_cancel_left heq⟩

end Value

end ArgValue

/-- Whether no parameter takes floating-point numbers. -/
def Signature.FloatFree (sig : Signature) : Prop :=
  ∀ p ∈ sig.params, ∀ t ∈ p.ty.scalars, t.isFloat = false

namespace ArgumentSet

section Values

variable {ps : List Param} {vs ws : List ArgValue}

/-- Values are read off their text one after another. -/
theorem eq_of_valuesText? (hints : ∀ p ∈ ps, ∀ t ∈ p.ty.scalars, t.isInteger = true)
    (hvs : List.Forall₂ (fun p v => ArgValue.Suits p.ty v) ps vs)
    (hws : List.Forall₂ (fun p v => ArgValue.Suits p.ty v) ps ws) {text : List Char}
    (hv : valuesText? vs = some text) (hw : valuesText? ws = some text) : vs = ws := by
  have hend : ArgValue.Ends [] := fun _ hc => by cases hc
  have hcomma : ∀ back, ArgValue.Ends (',' :: ' ' :: back) := by
    intro back c hc
    rw [← Option.some.inj hc]
    decide
  induction hvs generalizing ws text with
  | nil => cases hws with | nil => rfl
  | cons hfirst hrest ih =>
      obtain ⟨hint, hints⟩ := List.forall_mem_cons.1 hints
      cases hws with
      | cons hfirst' hrest' =>
          cases hrest with
          | nil =>
              cases hrest' with
              | nil => rw [(hfirst.eq_of_text hint hfirst' hv hw hend hend rfl).1]
          | cons _ _ =>
              cases hrest' with
              | cons _ _ =>
                  obtain ⟨front, back, hfront, hback, rfl⟩ := valuesText?_cons_cons.1 hv
                  obtain ⟨front', back', hfront', hback', heq⟩ := valuesText?_cons_cons.1 hw
                  obtain ⟨rfl, hsame⟩ := hfirst.eq_of_text hint hfirst' hfront hfront'
                    (hcomma back) (hcomma back') heq.symm
                  obtain rfl := (List.cons.inj (List.cons.inj hsame).2).2
                  rw [ih hints (.cons ‹_› ‹_›) hback hback']

end Values

theorem text?_eq {set : ArgumentSet} {values : List Char}
    (hvalues : valuesText? set.values = some values) :
    set.text? = some ('#' :: (Text.decimal set.index ++ ' ' ::
      (set.provenance.label.toList ++ ' ' :: '(' :: (values ++ [')'])))) := by
  rw [text?, hvalues]
  simp

/-- Values of the types of the parameters can be shown, and where no parameter takes
floating-point numbers, the line that shows them tells everything about them. -/
theorem line_determines {sig : Signature} (hfree : sig.FloatFree) {a b : ArgumentSet}
    (ha : a.Suits sig) (hb : b.Suits sig) :
    (∃ line, a.text? = some line) ∧ (a.text? = b.text? → a = b) := by
  have hints : ∀ p ∈ sig.params, ∀ t ∈ p.ty.scalars, t.isInteger = true := by
    intro p hp t ht
    simpa [ScalarType.isFloat] using hfree p hp t ht
  have hindex : ∀ n, ' ' ∉ Text.decimal n := by
    intro n hmem
    cases Text.isWord_decimal n ' ' hmem
  have hlabel : ∀ p : Provenance, ' ' ∉ p.label.toList := by
    intro p
    cases p <;> decide
  obtain ⟨values, hvalues⟩ := exists_valuesText? ha
  obtain ⟨values', hvalues'⟩ := exists_valuesText? hb
  refine ⟨⟨_, text?_eq hvalues⟩, ?_⟩
  intro heq
  rw [text?_eq hvalues, text?_eq hvalues'] at heq
  have hnumbered := (List.cons.inj (Option.some.inj heq)).2
  obtain ⟨hnumber, hlabelled⟩ := Text.eq_of_append_cons (hindex _) (hindex _) hnumbered
  obtain ⟨hname, hlisted⟩ := Text.eq_of_append_cons (hlabel _) (hlabel _) hlabelled
  obtain rfl := List.append_cancel_right (List.cons.inj hlisted).2
  have hprovenance := Provenance.ofLabel?_label a.provenance
  rw [String.toList_inj.1 hname, Provenance.ofLabel?_label] at hprovenance
  have hsame := eq_of_valuesText? hints ha hb hvalues hvalues'
  obtain ⟨index, provenance, values⟩ := a
  obtain ⟨index', provenance', values'⟩ := b
  rw [ArgumentSet.mk.injEq]
  exact ⟨Text.decimal_inj hnumber, (Option.some.inj hprovenance).symm, hsame⟩

namespace Confusable

/-- A text, a record, a number and elements, of which text and elements may be missing. -/
def sig : Signature where
  name := "mix"
  params :=
    [⟨"text", .cstring false, none, true, []⟩,
     ⟨"record", .aggregate [.int .w1 true, .int .w1 false], none, false, []⟩,
     ⟨"count", .scalar (.int .w4 true), none, false, []⟩,
     ⟨"elements", .buffer (.int .w2 true) (.const 2) true, none, true, []⟩]
  ret := .void

/-- The characters of an escape, a quotation mark, a comma and a space. -/
def spelled : Bytes := [0x5C, 0x78, 0x30, 0x31, 0x22, 0x2C, 0x20]

/-- The byte of that escape, and the same characters behind it. -/
def meant : Bytes := [0x01, 0x22, 0x2C, 0x20]

def arguments (text : Bytes) : ArgumentSet where
  index := 7
  provenance := .random
  values :=
    [.cstring text,
     .aggregate [.ofInt (.int .w1 true) (-1), .ofInt (.int .w1 false) 255],
     .scalar (.ofInt (.int .w4 true) (-7)),
     .buffer (.int .w2 true) [0xFF, 0xFF, 1, 0]]

theorem suits_arguments (text : Bytes) : (arguments text).Suits sig := by
  have hrecord : List.Forall₂ ScalarValue.IsOf [.int .w1 true, .int .w1 false]
      [.ofInt (.int .w1 true) (-1), .ofInt (.int .w1 false) 255] :=
    .cons (ScalarValue.isOf_ofInt _ _) (.cons (ScalarValue.isOf_ofInt _ _) .nil)
  have hcount := ScalarValue.isOf_ofInt (.int .w4 true) (-7)
  exact .cons .cstring (.cons (.aggregate hrecord) (.cons (.scalar hcount)
    (.cons (.buffer ⟨2, rfl⟩) .nil)))

theorem floatFree_sig : sig.FloatFree := by
  simp [Signature.FloatFree, sig, ValueType.scalars, ScalarType.isFloat, ScalarType.isInteger]

end Confusable

open Confusable in
/-- An escape that is spelled out is shown apart from the byte it stands for. -/
theorem line_determines_escape :
    sig.FloatFree ∧ (arguments spelled).Suits sig ∧ (arguments meant).Suits sig ∧
      (∃ line, (arguments spelled).text? = some line) ∧
      (arguments spelled).text? ≠ (arguments meant).text? := by
  obtain ⟨hshown, hsame⟩ :=
    line_determines floatFree_sig (suits_arguments spelled) (suits_arguments meant)
  have hne : arguments spelled ≠ arguments meant := by decide
  exact ⟨floatFree_sig, suits_arguments spelled, suits_arguments meant, hshown,
    fun heq => hne (hsame heq)⟩

end ArgumentSet

end Counterpart
