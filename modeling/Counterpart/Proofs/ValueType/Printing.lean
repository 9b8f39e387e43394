/-
Parameter types as they are written.  A written type is read again, with the chains in its length
associated to the left and nothing else changed.
-/
import Counterpart.Proofs.Except
import Counterpart.Proofs.Length.Printing
import Counterpart.Proofs.Text.Blank
import Counterpart.ValueType.Read

namespace Counterpart

open Text

namespace ScalarType

/-- The name of a scalar type stands for the type and for no other shape of a parameter. -/
structure PlainName (t : ScalarType) (name : List Char) : Prop where
  isWord : IsWord name
  named : ofName? (String.ofList name) = some t
  star : '*' ∉ name
  bracket : '[' ∉ name
  comma : ',' ∉ name
  start : name.head? ≠ some 's'
  ne_nil : name ≠ []
  ne_cstr : name ≠ "cstr".toList
  ne_bytes : name ≠ "bytes".toList

theorem plainName (t : ScalarType) : t.PlainName t.name.toList := by
  cases t with
  | int width signed =>
      cases width <;> cases signed <;>
        exact ⟨by decide, by decide, by decide, by decide, by decide, by decide, by decide,
          by decide, by decide⟩
  | f32 | f64 =>
      exact ⟨by decide, by decide, by decide, by decide, by decide, by decide, by decide,
        by decide, by decide⟩

theorem trim_name (t : ScalarType) : trim t.name.toList = t.name.toList :=
  trim_of_isWord t.plainName.isWord

theorem PlainName.read {t : ScalarType} {name : List Char} (hplain : t.PlainName name) :
    read name = .ok t := by
  have hne : name.isEmpty = false := List.isEmpty_eq_false_iff.2 hplain.ne_nil
  simp only [ScalarType.read, trim_of_isWord hplain.isWord, hne, hplain.named, Bool.false_eq_true,
    if_false]

theorem read_name (t : ScalarType) : read t.name.toList = .ok t :=
  t.plainName.read

end ScalarType

theorem LengthExpr.isWord_grouped (isSum : Bool) {cs : List Char} (hcs : IsWord cs) :
    IsWord (if isSum then '(' :: cs ++ [')'] else cs) := by
  cases isSum with
  | false => exact hcs
  | true => exact isWord_concat (isWord_cons (by decide) hcs) (by decide)

/-- An expression is written without blanks. -/
theorem LengthExpr.isWord_text {e : LengthExpr} (he : e.Writable) : IsWord e.text := by
  induction e with
  | const n => exact isWord_decimal n
  | param name => exact isWord_of_isIdentifier he
  | add left right ihLeft ihRight =>
      exact isWord_append (ihLeft he.1) (isWord_cons (by decide) (ihRight he.2))
  | mul left right ihLeft ihRight =>
      exact isWord_append (isWord_grouped _ (ihLeft he.1))
        (isWord_cons (by decide) (isWord_grouped _ (ihRight he.2)))

namespace ValueType

/-- The length of a buffer. -/
def length? : ValueType → Option LengthExpr
  | buffer _ length _ => some length
  | _ => none

/-- The number of elements of a buffer under an assignment. -/
def elements? (value? : String → Option Nat) (v : ValueType) : Option Nat :=
  v.length?.bind (·.eval? value?)

/-- Every intermediate result of the length under an assignment fits sixty-four bits. -/
def Fits (value? : String → Option Nat) (v : ValueType) : Prop :=
  ∀ e ∈ v.length?, e.Fits value?

/-- In the length no sum is the right operand of a sum, and no product that of a product. -/
def LeftNested (v : ValueType) : Prop :=
  ∀ e ∈ v.length?, e.LeftNested

/-- The second type is the first one with its length re-associated to the left. -/
inductive Reassociated : ValueType → ValueType → Prop
  | refl (v : ValueType) : Reassociated v v
  | buffer (elem : ScalarType) {length length' : LengthExpr} (isMutable : Bool)
      (hlength : length.Reassociated length') :
      Reassociated (.buffer elem length isMutable) (.buffer elem length' isMutable)

/-- The type with all chains in its length associated to the left. -/
def leftAssociated : ValueType → ValueType
  | buffer elem length isMutable => buffer elem length.leftAssociated isMutable
  | v => v

section Association

theorem reassociated_leftAssociated (v : ValueType) : v.Reassociated v.leftAssociated := by
  cases v with
  | buffer elem length isMutable =>
      exact .buffer elem isMutable (LengthExpr.reassociated_leftAssociated length)
  | scalar | cstring | bytes | aggregate => exact .refl _

theorem leftNested_leftAssociated (v : ValueType) : v.leftAssociated.LeftNested := by
  cases v with
  | buffer elem length =>
      intro e he
      rw [← Option.some.inj he]
      exact LengthExpr.leftNested_leftAssociated length
  | scalar | cstring | bytes | aggregate => exact fun _ hlength => nomatch hlength

theorem leftAssociated_eq_self_iff {v : ValueType} : v.leftAssociated = v ↔ v.LeftNested := by
  constructor
  · intro heq
    exact heq ▸ leftNested_leftAssociated v
  · intro hnested
    cases v with
    | buffer elem length isMutable =>
        exact congrArg (ValueType.buffer elem · isMutable)
          (LengthExpr.leftAssociated_eq_self_iff.2 (hnested length rfl))
    | scalar | cstring | bytes | aggregate => rfl

theorem Reassociated.eq_leftAssociated {v w : ValueType} (h : v.Reassociated w)
    (hw : w.LeftNested) : w = v.leftAssociated := by
  cases h with
  | refl => exact (leftAssociated_eq_self_iff.2 hw).symm
  | buffer elem isMutable hlength =>
      exact congrArg (ValueType.buffer elem · isMutable) (hlength.eq_leftAssociated (hw _ rfl))

theorem Reassociated.text {v w : ValueType} (h : v.Reassociated w) : w.text = v.text := by
  cases h with
  | refl => rfl
  | buffer elem isMutable hlength =>
      exact congrArg (fun inner => (if isMutable then "mut ".toList else []) ++
        (elem.name.toList ++ '[' :: inner ++ [']'])) hlength.text

theorem Reassociated.lengthNames {v w : ValueType} (h : v.Reassociated w) :
    w.lengthNames = v.lengthNames := by
  cases h with
  | refl => rfl
  | buffer _ _ hlength => exact hlength.namesAfter []

theorem Reassociated.elements? {value? : String → Option Nat} {v w : ValueType}
    (h : v.Reassociated w) (hv : v.Fits value?) (hw : w.Fits value?) :
    w.elements? value? = v.elements? value? := by
  cases h with
  | refl => rfl
  | buffer _ _ hlength => exact hlength.eval? (hv _ rfl) (hw _ rfl)

end Association

/-- The names in the length are identifiers, numbers fit sixty-four bits, and a structure has a
field. -/
def Writable : ValueType → Prop
  | buffer _ length _ => length.Writable
  | bytes size _ => size < 2 ^ 64
  | aggregate fields => fields ≠ []
  | scalar _ | cstring _ => True

instance decidableWritable : (v : ValueType) → Decidable v.Writable
  | buffer _ length _ => inferInstanceAs (Decidable length.Writable)
  | bytes size _ => inferInstanceAs (Decidable (size < 2 ^ 64))
  | aggregate fields => inferInstanceAs (Decidable (fields ≠ []))
  | scalar _ | cstring _ => inferInstanceAs (Decidable True)

section Written

theorem pieces_fieldsText {fields : List ScalarType} (hne : fields ≠ []) :
    pieces ',' (fieldsText fields) = fields.map (·.name.toList) := by
  induction fields with
  | nil => exact absurd rfl hne
  | cons field fields ih =>
      have hcomma := field.plainName.comma
      cases fields with
      | nil => exact pieces_of_notMem hcomma
      | cons next fields =>
          have hcut := pieces_append hcomma (fieldsText (next :: fields))
          rw [ih (List.cons_ne_nil _ _)] at hcut
          exact hcut

theorem isWord_fieldsText (fields : List ScalarType) : IsWord (fieldsText fields) := by
  induction fields with
  | nil => exact isWord_nil
  | cons field fields ih =>
      cases fields with
      | nil => exact field.plainName.isWord
      | cons next fields => exact isWord_append field.plainName.isWord (isWord_cons (by decide) ih)

theorem isWord_bracketed {head inner : List Char} (hhead : IsWord head) (hinner : IsWord inner) :
    IsWord (head ++ '[' :: inner ++ [']']) :=
  isWord_concat (isWord_append hhead (isWord_cons (by decide) hinner)) (by decide)

theorem isWord_baseText {v : ValueType} (hv : v.Writable) : IsWord v.baseText := by
  cases v with
  | scalar ty => exact ty.plainName.isWord
  | buffer elem length =>
      exact isWord_bracketed elem.plainName.isWord (LengthExpr.isWord_text hv)
  | cstring =>
      have hkeyword : IsWord "cstr".toList := by decide
      exact hkeyword
  | bytes size =>
      have hkeyword : IsWord "bytes".toList := by decide
      exact isWord_bracketed hkeyword (isWord_decimal size)
  | aggregate fields =>
      have hopen : IsWord "struct\x7b".toList := by decide
      exact isWord_concat (isWord_append hopen (isWord_fieldsText fields)) (by decide)

theorem baseText_ne_nil (v : ValueType) : v.baseText ≠ [] := by
  cases v with
  | scalar ty => exact ty.plainName.ne_nil
  | buffer | bytes | aggregate => exact List.append_ne_nil_of_right_ne_nil _ (List.cons_ne_nil _ _)
  | cstring => exact List.cons_ne_nil 'c' "str".toList

end Written

section Read

variable {whole : List Char} {isMutable : Bool}

theorem readFields_fieldsText {fields : List ScalarType} (hne : fields ≠ []) :
    readFields (fieldsText fields) = .ok fields := by
  have hkept : (fields.map (·.name.toList)).filter (fun piece => !(trim piece).isEmpty) =
      fields.map (·.name.toList) := by
    rw [List.filter_eq_self]
    intro piece hpiece
    obtain ⟨field, _, rfl⟩ := List.mem_map.1 hpiece
    rw [field.trim_name, List.isEmpty_eq_false_iff.2 field.plainName.ne_nil, Bool.not_false]
  rw [readFields, pieces_fieldsText hne, hkept, mapM_eq_ok_iff, List.forall₂_map_left_iff,
    List.forall₂_same]
  exact fun field _ => field.read_name

theorem readAggregate_written {fields : List ScalarType} (hne : fields ≠ []) :
    readAggregate whole ("\x7b".toList ++ fieldsText fields ++ "\x7d".toList) =
      .ok (aggregate fields) := by
  have hbraced : braced? (trim ("\x7b".toList ++ fieldsText fields ++ "\x7d".toList)) =
      some (fieldsText fields) := by
    have hword : IsWord ("\x7b".toList ++ fieldsText fields ++ "\x7d".toList) :=
      isWord_concat (isWord_cons (by decide) (isWord_fieldsText fields)) (by decide)
    rw [trim_of_isWord hword, braced?, List.append_assoc, dropFront?_append, Option.bind_some,
      dropBack?_append]
  have hsome : fields.isEmpty = false := List.isEmpty_eq_false_iff.2 hne
  simp only [readAggregate, hbraced, readFields_fieldsText hne]
  exact bind_eq_ok_iff.2 ⟨fields, rfl, by rw [hsome, if_neg Bool.false_ne_true]⟩

theorem dropFront?_struct {body : List Char} (hstart : body.head? ≠ some 's') :
    dropFront? "struct".toList body = none := by
  apply dropFront?_eq_none
  rintro ⟨rest, rfl⟩
  exact hstart rfl

/-- A text that ends in a bracket is cut at its first opening bracket. -/
theorem readBase_bracketed {head inner : List Char} (hne : head ≠ []) (hhead : '[' ∉ head)
    (hstart : head.head? ≠ some 's') :
    readBase whole (head ++ '[' :: inner ++ [']']) isMutable =
      readBracketed whole head (inner ++ [']']) isMutable := by
  have hmem : '[' ∈ head ++ '[' :: inner ++ [']'] := by simp
  have hcstr : head ++ '[' :: inner ++ [']'] ≠ "cstr".toList := by
    intro hbody
    rw [hbody] at hmem
    exact absurd hmem (by decide)
  have hstruct : dropFront? "struct".toList (head ++ '[' :: inner ++ [']']) = none := by
    apply dropFront?_struct
    rwa [List.append_assoc, List.head?_append_of_ne_nil _ hne]
  have hstar : dropBack? ['*'] (head ++ '[' :: inner ++ [']']) = none := by
    apply dropBack?_eq_none
    rintro ⟨rest, hrest⟩
    have hlast := congrArg List.getLast? hrest
    rw [List.getLast?_concat, List.getLast?_concat] at hlast
    exact absurd (Option.some.inj hlast) (by decide)
  have hopen : ∀ c ∈ head, (decide (c ≠ '[')) = true := by
    intro c hc
    exact decide_eq_true fun hmark => hhead (hmark ▸ hc)
  have hfront : (head ++ '[' :: inner ++ [']']).takeWhile (· ≠ '[') = head := by
    rw [List.append_assoc, List.takeWhile_append_of_pos hopen]
    simp
  have hback : ((head ++ '[' :: inner ++ [']']).dropWhile (· ≠ '[')).drop 1 = inner ++ [']'] := by
    rw [List.append_assoc, List.dropWhile_append_of_pos hopen]
    simp
  simp only [readBase, if_neg hcstr, hstruct, hstar, if_pos hmem, hfront, hback]

theorem readBase_of_plainName {ty : ScalarType} {name : List Char} (hplain : ty.PlainName name) :
    readBase whole name false = .ok (scalar ty) := by
  have hstar : dropBack? ['*'] name = none := by
    apply dropBack?_eq_none
    intro hsuffix
    exact hplain.star (hsuffix.subset List.mem_cons_self)
  simp only [readBase, if_neg hplain.ne_cstr, dropFront?_struct hplain.start, hstar,
    if_neg hplain.bracket, hplain.read]
  rfl

theorem readBase_buffer (elem : ScalarType) {length : LengthExpr} (hlength : length.Writable) :
    readBase whole (buffer elem length isMutable).baseText isMutable =
      .ok (buffer elem length.leftAssociated isMutable) := by
  have hplain := elem.plainName
  have hbody : (buffer elem length isMutable).baseText =
      elem.name.toList ++ '[' :: length.text ++ [']'] := rfl
  rw [hbody, readBase_bracketed hplain.ne_nil hplain.bracket hplain.start]
  simp only [readBracketed, dropBack?_append, elem.trim_name, if_neg hplain.ne_bytes,
    elem.read_name, LengthExpr.readIn_text hlength]
  rfl

theorem readBase_bytes {size : Nat} (hsize : size < 2 ^ 64) :
    readBase whole (bytes size isMutable).baseText isMutable = .ok (bytes size isMutable) := by
  have hkeyword : trim "bytes".toList = "bytes".toList := by decide
  have hbody : (bytes size isMutable).baseText = "bytes".toList ++ '[' :: decimal size ++ [']'] :=
    rfl
  rw [hbody, readBase_bracketed (by decide) (by decide) (by decide)]
  simp only [readBracketed, dropBack?_append, hkeyword, if_true,
    trim_of_isWord (isWord_decimal size), nat64?_decimal hsize]

theorem readBase_aggregate {fields : List ScalarType} (hne : fields ≠ []) :
    readBase whole (aggregate fields).baseText false = .ok (aggregate fields) := by
  have hbody : (aggregate fields).baseText =
      "struct".toList ++ ("\x7b".toList ++ fieldsText fields ++ "\x7d".toList) := rfl
  have hcstr : (aggregate fields).baseText ≠ "cstr".toList := by
    intro h
    have hstart : 's' = 'c' := (List.cons.inj h).1
    exact absurd hstart (by decide)
  have hstruct : dropFront? "struct".toList (aggregate fields).baseText =
      some ("\x7b".toList ++ fieldsText fields ++ "\x7d".toList) := by
    rw [hbody, dropFront?_append]
  simp only [readBase, if_neg hcstr, hstruct, Bool.false_eq_true, if_false,
    readAggregate_written hne]

/-- The text of a type without its mark stands for the type. -/
theorem readBase_baseText {v : ValueType} (hv : v.Writable) :
    readBase whole v.baseText v.isMutable = .ok v.leftAssociated := by
  cases v with
  | scalar ty => exact readBase_of_plainName ty.plainName
  | buffer elem length => exact readBase_buffer elem hv
  | cstring => rfl
  | bytes => exact readBase_bytes hv
  | aggregate => exact readBase_aggregate hv

/-- A text without blanks carries no mark. -/
theorem read_of_isWord {body : List Char} (hword : IsWord body) (hne : body ≠ []) :
    read body = readBase body body false := by
  have hunmarked : dropFront? "mut ".toList body = none := by
    apply dropFront?_eq_none
    intro hfront
    have hblank : ' ' ∈ "mut ".toList := by decide
    exact absurd (hword ' ' (hfront.subset hblank)) (by decide)
  simp only [read, trim_of_isWord hword, hunmarked, List.isEmpty_eq_false_iff.2 hne,
    Bool.false_eq_true, if_false]

/-- The mark is taken off. -/
theorem read_mut_append {body : List Char} (hword : IsWord body) (hne : body ≠ []) :
    read ("mut ".toList ++ body) = readBase ("mut ".toList ++ body) body true := by
  have hfirst : ∀ c ∈ ("mut ".toList ++ body).head?, isBlank c = false := by
    intro c hc
    have hm : 'm' = c := Option.some.inj hc
    rw [← hm]
    decide
  have htrim : trim ("mut ".toList ++ body) = "mut ".toList ++ body :=
    trim_append_of_isWord hword hne hfirst
  simp only [read, htrim, dropFront?_append, trim_of_isWord hword]
  rfl

/-- A written type is read with all chains in its length associated to the left. -/
theorem read_text {v : ValueType} (hv : v.Writable) : read v.text = .ok v.leftAssociated := by
  have hword := isWord_baseText hv
  have hbase : ∀ whole, readBase whole v.baseText v.isMutable = .ok v.leftAssociated :=
    fun whole => readBase_baseText hv
  cases hmutable : v.isMutable with
  | false =>
      have htext : v.text = v.baseText := by
        rw [text, hmutable]
        rfl
      rw [htext, read_of_isWord hword v.baseText_ne_nil, ← hmutable, hbase]
  | true =>
      have htext : v.text = "mut ".toList ++ v.baseText := by
        rw [text, hmutable]
        rfl
      rw [htext, read_mut_append hword v.baseText_ne_nil, ← hmutable, hbase]

end Read

/-- Reading undoes printing up to association: of a written type it gives the one re-association
that leans to the left, which is written the same way, names the same parameters in the same order
and, where nothing overflows, counts the same elements. -/
theorem read_text_exact {v : ValueType} (hv : v.Writable) :
    ∃ v', read v.text = .ok v' ∧ v.Reassociated v' ∧ v'.LeftNested ∧
      (∀ w, v.Reassociated w → w.LeftNested → w = v') ∧
      v'.text = v.text ∧ v'.lengthNames = v.lengthNames ∧
      (∀ value?, v.Fits value? → v'.Fits value? → v'.elements? value? = v.elements? value?) ∧
      (v' = v ↔ v.LeftNested) := by
  have hassociated := reassociated_leftAssociated v
  have honly : ∀ w, v.Reassociated w → w.LeftNested → w = v.leftAssociated :=
    fun w hw hnested => hw.eq_leftAssociated hnested
  have hcount : ∀ value?, v.Fits value? → v.leftAssociated.Fits value? →
      v.leftAssociated.elements? value? = v.elements? value? :=
    fun value? hfits hfits' => hassociated.elements? hfits hfits'
  exact ⟨v.leftAssociated, read_text hv, hassociated, leftNested_leftAssociated v, honly,
    hassociated.text, hassociated.lengthNames, hcount, leftAssociated_eq_self_iff⟩

namespace Planes

/-- A mutable buffer of `n*(2*(k+(n+1)))` elements. -/
def planes : ValueType :=
  buffer (.int .w4 false)
    (.mul (.param "n") (.mul (.const 2) (.add (.param "k") (.add (.param "n") (.const 1))))) true

theorem writable_planes : planes.Writable := by
  decide

theorem not_leftNested_planes : ¬ planes.LeftNested := by
  intro hnested
  exact Bool.noConfusion (hnested _ rfl).2.2

/-- The type is read as the buffer of `(n*2)*((k+n)+1)` elements, which is another type. -/
theorem read_text_exact_planes :
    ∃ v', read planes.text = .ok v' ∧ v' ≠ planes ∧ v'.text = planes.text := by
  obtain ⟨v', hread, _, _, _, htext, _, _, hsame⟩ := read_text_exact writable_planes
  exact ⟨v', hread, fun heq => not_leftNested_planes (hsame.1 heq), htext⟩

end Planes

end ValueType

end Counterpart
