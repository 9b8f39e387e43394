/-
Which definitions stand in the header.  A definition is told from every other line by reading it,
and from the other definitions by its name, its arguments and its masks.
-/
import Counterpart.Header.Text
import Counterpart.Proofs.Header.Line
import Counterpart.Proofs.Scalar.Value

namespace Counterpart.Header

open Text CDefinition

section Readable

theorem toList_label (word : String) (m n : Nat) :
    (toString word ++ toString m ++ toString n).toList =
      word.toList ++ (decimal m ++ decimal n) := by
  rw [String.toList_append, String.toList_append, Nat.toString_eq_repr, Nat.toString_eq_repr,
    Nat.repr_eq_ofList_toDigits, Nat.repr_eq_ofList_toDigits, String.toList_ofList,
    String.toList_ofList, List.append_assoc]
  rfl

theorem isIdentifier_append {front back : List Char} (hfront : isIdentifier front = true)
    (hback : ∀ c ∈ back, isIdentifierPart c = true) : isIdentifier (front ++ back) = true := by
  cases front with
  | nil => cases hfront
  | cons c front =>
      rw [isIdentifier, Bool.and_eq_true] at hfront
      rw [List.cons_append, isIdentifier, List.all_append, hfront.1, hfront.2,
        List.all_eq_true.2 hback]
      rfl

theorem isIdentifier_label (word : String) (hword : isIdentifier word.toList = true) (m n : Nat) :
    isIdentifier (toString word ++ toString m ++ toString n).toList = true := by
  rw [toList_label]
  refine isIdentifier_append hword fun c hc => isIdentifierPart_of_isDecimal ?_
  rcases List.mem_append.1 hc with hc | hc
  · exact isDecimal_of_mem_decimal hc
  · exact isDecimal_of_mem_decimal hc

/-- An expression that stands beside an operator without parentheses. -/
def IsOperand (e : CExpr) : Prop :=
  e.rank = 0 ∧ e.Grouped

theorem isOperand_group {e : CExpr} (he : e.Grouped) : IsOperand (.group e) := ⟨rfl, he⟩

theorem isOperand_cast (ty : ScalarType) {e : CExpr} (he : IsOperand e) :
    IsOperand (.cast ty e) := ⟨rfl, he⟩

theorem isOperand_number (n : Nat) : IsOperand (.number n) := ⟨rfl, trivial⟩

theorem isOperand_argument {name : String} (hname : isIdentifier name.toList = true)
    (htype : ScalarType.ofName? name = none) : IsOperand (.argument name) := ⟨rfl, hname, htype⟩

theorem grouped_binary (op : COperator) {left right : CExpr} (hleft : IsOperand left)
    (hright : IsOperand right) : (CExpr.binary op left right).Grouped := by
  have hpos : 0 < op.rank := by cases op <;> decide
  exact ⟨hleft.1 ▸ hpos, hright.1 ▸ hpos, hleft.2, hright.2⟩

theorem isOperand_taken (ty : ScalarType) {name : String} (hname : IsOperand (.argument name)) :
    IsOperand (taken ty name) :=
  isOperand_group (isOperand_cast ty (isOperand_group hname.2)).2

theorem grouped_masked {e : CExpr} (he : IsOperand e) (width : Nat) : (masked e width).Grouped :=
  grouped_binary .bitAnd he ⟨rfl, trivial⟩

theorem grouped_result (ty : ScalarType) {e : CExpr} (he : e.Grouped) : (result ty e).Grouped :=
  (isOperand_group (isOperand_cast ty (isOperand_group he)).2).2

theorem isOperand_a : IsOperand (.argument "a") := isOperand_argument (by decide) (by decide)

theorem readable_concat (high low : Nat) : (concat high low).Readable where
  name := isIdentifier_label "CONCAT" (by decide) high low
  arguments := (by decide : ∀ a ∈ ["a", "b"], isIdentifier a.toList = true)
  nonempty := List.cons_ne_nil _ _
  body := by
    have hb : IsOperand (.argument "b") := isOperand_argument (by decide) (by decide)
    have ha := isOperand_taken (containerType (high + low)) isOperand_a
    have hupper := grouped_binary .shiftLeft (isOperand_group (grouped_masked ha high))
      (isOperand_number (low * 8))
    have hlower := grouped_masked (isOperand_taken (containerType (high + low)) hb) low
    exact grouped_result _
      (grouped_binary .bitOr (isOperand_group hupper) (isOperand_group hlower))

theorem readable_extract (source width : Nat) : (extract source width).Readable where
  name := isIdentifier_label "SUB" (by decide) source width
  arguments := (by decide : ∀ a ∈ ["a", "off"], isIdentifier a.toList = true)
  nonempty := List.cons_ne_nil _ _
  body := by
    have hoff : IsOperand (.argument "off") := isOperand_argument (by decide) (by decide)
    have hoffset := grouped_binary .times (isOperand_group hoff.2) (isOperand_number 8)
    have ha := isOperand_taken (containerType source) isOperand_a
    have hshifted := grouped_binary .shiftRight (isOperand_group (grouped_masked ha source))
      (isOperand_group hoffset)
    exact grouped_result _ (grouped_masked (isOperand_group hshifted) width)

theorem readable_zeroExtend (source target : Nat) : (zeroExtend source target).Readable where
  name := isIdentifier_label "ZEXT" (by decide) source target
  arguments := (by decide : ∀ a ∈ ["a"], isIdentifier a.toList = true)
  nonempty := List.cons_ne_nil _ _
  body := grouped_result _ (grouped_masked (isOperand_taken _ isOperand_a) source)

theorem readable_signExtend (source target : Nat) : (signExtend source target).Readable where
  name := isIdentifier_label "SEXT" (by decide) source target
  arguments := (by decide : ∀ a ∈ ["a"], isIdentifier a.toList = true)
  nonempty := List.cons_ne_nil _ _
  body := by
    have hraised := grouped_binary .shiftLeft (isOperand_taken unsignedWord isOperand_a)
      (isOperand_number (64 - source * 8))
    have hlowered := grouped_binary .shiftRight
      (isOperand_cast signedWord (isOperand_group hraised)) (isOperand_number (64 - source * 8))
    exact grouped_result _ (grouped_masked (isOperand_group hlowered) target)

end Readable

section Widths

theorem label_inj_left {word : String} {m m' n : Nat}
    (h : toString word ++ toString m ++ toString n = toString word ++ toString m' ++ toString n) :
    m = m' := by
  have hlist := congrArg String.toList h
  rw [toList_label, toList_label] at hlist
  exact decimal_inj (List.append_cancel_right (List.append_cancel_left hlist))

theorem label_inj_right {word : String} {m n n' : Nat}
    (h : toString word ++ toString m ++ toString n = toString word ++ toString m ++ toString n') :
    n = n' := by
  have hlist := congrArg String.toList h
  rw [toList_label, toList_label] at hlist
  exact decimal_inj (List.append_cancel_left (List.append_cancel_left hlist))

/-- A mask of fewer bytes than a word has is no other mask. -/
theorem mask_inj {m n : Nat} (hn : n ≤ 7) (h : Word.mask m = Word.mask n) : m = n := by
  have hword : m > 8 → Word.mask m = Word.mask 8 := by
    intro hm
    rw [Word.mask, Word.mask, show 64 - 8 * m = 64 - 8 * 8 by omega]
  have hsmall : ∀ m ≤ 8, ∀ n ≤ 7, Word.mask m = Word.mask n → m = n := by decide
  by_cases hm : m ≤ 8
  · exact hsmall m hm n hn h
  · rw [hword (by omega)] at h
    have height := hsmall 8 (Nat.le_refl 8) n hn h
    omega

theorem mem_upTo {low high n : Nat} : n ∈ upTo low high ↔ low ≤ n ∧ n ≤ high := by
  rw [upTo, List.mem_map]
  constructor
  · rintro ⟨k, hk, rfl⟩
    rw [List.mem_range] at hk
    omega
  · rintro ⟨hlow, hhigh⟩
    exact ⟨n - low, List.mem_range.2 (by omega), by omega⟩

theorem concat_inj {high low high' low' : Nat} (h : concat high low = concat high' low') :
    high = high' ∧ low = low' := by
  have hlow : low = low' := by
    have hbody := congrArg CDefinition.body h
    simp only [concat, result, CExpr.group.injEq, CExpr.cast.injEq, CExpr.binary.injEq,
      CExpr.number.injEq] at hbody
    omega
  subst hlow
  exact ⟨label_inj_left (congrArg CDefinition.name h), rfl⟩

theorem mem_concats_iff {high low : Nat} :
    concat high low ∈ concats ↔ 1 ≤ high ∧ 1 ≤ low ∧ high + low ≤ 8 := by
  simp only [concats, List.mem_flatMap, List.mem_map, mem_upTo]
  constructor
  · rintro ⟨high', hhigh, low', hlow, hsame⟩
    obtain ⟨rfl, rfl⟩ := concat_inj hsame
    omega
  · rintro ⟨hhigh, hlow, htotal⟩
    exact ⟨high, by omega, low, by omega, rfl⟩

theorem extract_inj {source width source' width' : Nat} (hwidth : width' ≤ 7)
    (h : extract source width = extract source' width') : source = source' ∧ width = width' := by
  have hmask : Word.mask width = Word.mask width' := by
    have hbody := congrArg CDefinition.body h
    simp only [extract, result, masked, CExpr.group.injEq, CExpr.cast.injEq, CExpr.binary.injEq,
      CExpr.pattern.injEq] at hbody
    exact hbody.2.2.2
  have hsame := mask_inj hwidth hmask
  subst hsame
  exact ⟨label_inj_left (congrArg CDefinition.name h), rfl⟩

theorem mem_extracts_iff {source width : Nat} :
    extract source width ∈ extracts ↔ 1 ≤ width ∧ width < source ∧ source ≤ 8 := by
  simp only [extracts, List.mem_flatMap, List.mem_map, mem_upTo]
  constructor
  · rintro ⟨source', hsource, width', hwidth, hsame⟩
    obtain ⟨rfl, rfl⟩ := extract_inj (by omega) hsame.symm
    omega
  · rintro ⟨hwidth, hlt, hsource⟩
    exact ⟨source, by omega, width, by omega, rfl⟩

theorem zeroExtend_inj {source target source' target' : Nat} (hsource : source' ≤ 7)
    (h : zeroExtend source target = zeroExtend source' target') :
    source = source' ∧ target = target' := by
  have hmask : Word.mask source = Word.mask source' := by
    have hbody := congrArg CDefinition.body h
    simp only [zeroExtend, result, masked, CExpr.group.injEq, CExpr.cast.injEq,
      CExpr.binary.injEq, CExpr.pattern.injEq] at hbody
    exact hbody.2.2.2
  have hsame := mask_inj hsource hmask
  subst hsame
  exact ⟨rfl, label_inj_right (congrArg CDefinition.name h)⟩

theorem signExtend_inj {source target source' target' : Nat} (hsource : source' ≤ 7)
    (h : signExtend source target = signExtend source' target') :
    source = source' ∧ target = target' := by
  have hshift : 64 - source * 8 = 64 - source' * 8 := by
    have hbody := congrArg CDefinition.body h
    simp only [signExtend, result, masked, CExpr.group.injEq, CExpr.cast.injEq,
      CExpr.binary.injEq, CExpr.number.injEq] at hbody
    exact hbody.2.2.1.2.2
  have hsame : source = source' := by omega
  subst hsame
  exact ⟨rfl, label_inj_right (congrArg CDefinition.name h)⟩

/-- The one kind of extension masks its argument and the other masks a shift. -/
theorem zeroExtend_ne_signExtend (source target source' target' : Nat) :
    zeroExtend source target ≠ signExtend source' target' := by
  intro h
  have hbody := congrArg CDefinition.body h
  simp [zeroExtend, signExtend, result, masked, taken] at hbody

theorem mem_extensions {d : CDefinition} : d ∈ extensions ↔ ∃ source target,
    1 ≤ source ∧ source < target ∧ target ≤ 8 ∧
      (d = zeroExtend source target ∨ d = signExtend source target) := by
  simp only [extensions, List.mem_flatMap, mem_upTo, List.mem_cons, List.not_mem_nil, or_false]
  constructor
  · rintro ⟨source, hsource, target, htarget, hd⟩
    exact ⟨source, target, by omega, by omega, by omega, hd⟩
  · rintro ⟨source, target, hpos, hlt, htarget, hd⟩
    exact ⟨source, by omega, target, by omega, hd⟩

theorem zeroExtend_mem_iff {source target : Nat} :
    zeroExtend source target ∈ extensions ↔ 1 ≤ source ∧ source < target ∧ target ≤ 8 := by
  rw [mem_extensions]
  constructor
  · rintro ⟨source', target', hpos, hlt, htarget, hsame | hother⟩
    · obtain ⟨rfl, rfl⟩ := zeroExtend_inj (by omega) hsame
      exact ⟨hpos, hlt, htarget⟩
    · exact absurd hother (zeroExtend_ne_signExtend _ _ _ _)
  · rintro ⟨hpos, hlt, htarget⟩
    exact ⟨source, target, hpos, hlt, htarget, Or.inl rfl⟩

theorem signExtend_mem_iff {source target : Nat} :
    signExtend source target ∈ extensions ↔ 1 ≤ source ∧ source < target ∧ target ≤ 8 := by
  rw [mem_extensions]
  constructor
  · rintro ⟨source', target', hpos, hlt, htarget, hother | hsame⟩
    · exact absurd hother.symm (zeroExtend_ne_signExtend _ _ _ _)
    · obtain ⟨rfl, rfl⟩ := signExtend_inj (by omega) hsame
      exact ⟨hpos, hlt, htarget⟩
  · rintro ⟨hpos, hlt, htarget⟩
    exact ⟨source, target, hpos, hlt, htarget, Or.inr rfl⟩

end Widths

end Counterpart.Header
