/-
The compact form read back.  A value ends in front of the comma or the closing bracket behind it,
so every part is read as it was written and what stands behind it is left.
-/
import Counterpart.Json.Read
import Counterpart.Json.Write
import Counterpart.Proofs.Text.Identifier
import Counterpart.Proofs.Text.Padding

namespace Counterpart.Json

open Text

section String

theorem digits_control :
    ∀ n < 32, padZeros 4 (hexadecimal n) = ['0', '0', (n / 16).digitChar, (n % 16).digitChar] := by
  decide

theorem unit?_control : ∀ n < 32, unit? '0' '0' (n / 16).digitChar (n % 16).digitChar = some n := by
  decide

/-- A character is read as it is written. -/
theorem stringFrom_escapeChar (done : Option (List Char)) (c : Char) (rest : List Char) :
    stringFrom done (escapeChar c ++ rest) = stringFrom (done.map (c :: ·)) rest := by
  unfold escapeChar
  split
  · next hc => rw [hc]; rfl
  split
  · next hc => rw [hc]; rfl
  split
  · next hc => rw [hc]; rfl
  split
  · next hc => rw [hc]; rfl
  split
  · next hc => rw [hc]; rfl
  split
  · next hc => rw [← Char.ofNat_toNat c, hc]; rfl
  split
  · next hc => rw [← Char.ofNat_toNat c, hc]; rfl
  split
  · next hcontrol =>
    have hlow : ¬(0xDC00 ≤ c.toNat ∧ c.toNat < 0xE000) := by omega
    have hhigh : ¬(0xD800 ≤ c.toNat ∧ c.toNat < 0xDC00) := by omega
    rw [digits_control c.toNat hcontrol]
    simp only [List.cons_append, List.nil_append, stringFrom, unit?_control c.toNat hcontrol,
      if_neg hlow, if_neg hhigh, Char.ofNat_toNat]
  · next hquote hslash _ _ _ _ _ hcontrol =>
    rw [List.singleton_append, stringFrom.eq_def]
    split
    · next heq => simp at heq
    · next heq => simp [hquote] at heq
    · next heq => simp [hslash] at heq
    · next heq => simp [hslash] at heq
    · next heq =>
      obtain ⟨rfl, rfl⟩ := List.cons.inj heq
      rw [if_neg hcontrol]

theorem stringFrom_flatMap_escapeChar (done cs rest : List Char) :
    stringFrom (some done) (cs.flatMap escapeChar ++ '"' :: rest) =
      some (some (done.reverse ++ cs), rest) := by
  induction cs generalizing done with
  | nil => rw [List.append_nil]; rfl
  | cons c cs ih =>
      rw [List.flatMap_cons, List.append_assoc, stringFrom_escapeChar, Option.map_some, ih,
        List.reverse_cons, List.append_assoc, List.singleton_append]

theorem stringBody_flatMap_escapeChar (cs rest : List Char) :
    stringBody (cs.flatMap escapeChar ++ '"' :: rest) = some (some cs, rest) :=
  stringFrom_flatMap_escapeChar [] cs rest

end String

section Number

/-- What stands behind a value in an array or an object. -/
def marks : List Char := [',', ']', closeBrace]

theorem forall_mem_marks {p : Char → Prop} (hcomma : p ',') (hbracket : p ']')
    (hbrace : p closeBrace) : ∀ c ∈ marks, p c :=
  List.forall_mem_cons.2
    ⟨hcomma, List.forall_mem_cons.2 ⟨hbracket, List.forall_mem_singleton.2 hbrace⟩⟩

/-- Nothing follows a value, or one of the marks. -/
def Ends (rest : List Char) : Prop :=
  ∀ c ∈ rest.head?, c ∈ marks

theorem Ends.not_isDecimal {rest : List Char} (hrest : Ends rest) :
    ∀ c ∈ rest.head?, isDecimal c = false := by
  have hnone : ∀ c ∈ marks, isDecimal c = false := forall_mem_marks rfl rfl rfl
  exact fun c hc => hnone c (hrest c hc)

/-- Only zero opens with a zero. -/
theorem head?_decimal {n : Nat} (hn : 0 < n) : (decimal n).head? ≠ some '0' := by
  induction n using Nat.strongRecOn with
  | ind n ih =>
      rw [decimal, Nat.toDigits_eq_if (by decide)]
      split
      · next hlt =>
        have hdigit : ∀ d < 10, 0 < d → d.digitChar ≠ '0' := by decide
        intro heq
        exact hdigit n hlt hn (Option.some.inj heq)
      · next hlong =>
        have hfront := ih (n / 10) (by omega) (by omega)
        obtain ⟨c, rest, hdigits⟩ := List.exists_cons_of_ne_nil (decimal_ne_nil (n / 10))
        rw [hdigits] at hfront
        rw [← decimal, hdigits]
        exact hfront

namespace NumberLiteral

theorem digitRun?_decimal (n : Nat) {rest : List Char} (hrest : Ends rest) :
    digitRun? (decimal n ++ rest) = some (decimal n, rest) := by
  have hdigits : ∀ c ∈ decimal n, isDecimal c = true := fun c hc => isDecimal_of_mem_decimal hc
  rw [digitRun?, takeWhile_eq_of_head? hdigits hrest.not_isDecimal,
    dropWhile_eq_of_head? hdigits hrest.not_isDecimal]
  split
  · next hnil => exact absurd hnil (decimal_ne_nil n)
  · rfl

theorem fraction?_of_ends {rest : List Char} (hrest : Ends rest) :
    fraction? rest = some (none, rest) := by
  cases rest with
  | nil => rfl
  | cons c rest =>
      have hpoint : c ≠ '.' := by
        rintro rfl
        exact absurd (hrest '.' rfl) (by decide)
      unfold fraction?
      split
      · next heq => exact absurd (List.cons.inj heq).1 hpoint
      · rfl

theorem exponent?_of_ends {rest : List Char} (hrest : Ends rest) :
    exponent? rest = some (none, rest) := by
  cases rest with
  | nil => rfl
  | cons c rest =>
      have hnone : ∀ c ∈ marks, ¬(c = 'e' ∨ c = 'E') :=
        forall_mem_marks (by decide) (by decide) (by decide)
      exact if_neg (hnone c (hrest c rfl))

theorem not_leadingZero (n : Nat) :
    ¬((decimal n).head? = some '0' ∧ (decimal n).length ≠ 1) := by
  rintro ⟨hhead, hlength⟩
  rcases Nat.eq_zero_or_pos n with rfl | hn
  · exact hlength rfl
  · exact head?_decimal hn hhead

theorem read?_decimal (n : Nat) {rest : List Char} (hrest : Ends rest) :
    read? (decimal n ++ rest) = some (⟨false, decimal n, none, none⟩, rest) := by
  have hsign : ∀ tail, decimal n ++ rest ≠ '-' :: tail := by
    intro tail heq
    obtain ⟨c, digits, hdigits⟩ := List.exists_cons_of_ne_nil (decimal_ne_nil n)
    rw [hdigits] at heq
    obtain rfl := (List.cons.inj heq).1
    exact minus_notMem_decimal n (hdigits ▸ List.mem_cons_self)
  simp only [read?, digitRun?_decimal n hrest, Option.bind_eq_bind, Option.bind_some,
    fraction?_of_ends hrest, exponent?_of_ends hrest, if_neg (not_leadingZero n)]

theorem read?_minus_decimal (n : Nat) {rest : List Char} (hrest : Ends rest) :
    read? ('-' :: decimal n ++ rest) = some (⟨true, decimal n, none, none⟩, rest) := by
  simp only [read?, List.cons_append, digitRun?_decimal n hrest, Option.bind_eq_bind,
    Option.bind_some, fraction?_of_ends hrest, exponent?_of_ends hrest, if_neg (not_leadingZero n)]

theorem value_decimal {n : Nat} (hn : n < 2 ^ 64) :
    value ⟨false, decimal n, none, none⟩ = int n := by
  have hdigits : digitsFrom? 10 0 (decimal n) = some n := digitsFrom?_toDigits isBase_ten n
  simp only [value, hdigits, Option.getD_some, Bool.false_eq_true, if_false, if_pos hn]

theorem value_minus_decimal {n : Nat} (hpos : 0 < n) (hn : n ≤ 2 ^ 63) :
    value ⟨true, decimal n, none, none⟩ = int (-(n : Int)) := by
  have hdigits : digitsFrom? 10 0 (decimal n) = some n := digitsFrom?_toDigits isBase_ten n
  simp only [value, hdigits, Option.getD_some, if_true, if_pos (And.intro hpos hn)]

end NumberLiteral

theorem ne_of_number {c d : Char} (hc : c = '-' ∨ isDecimal c = true) (hminus : d ≠ '-')
    (hdigit : isDecimal d = false) : c ≠ d := by
  rintro rfl
  rcases hc with hc | hc
  · exact hminus hc
  · rw [hc] at hdigit
    cases hdigit

/-- What opens with a sign or a digit is read as a number. -/
theorem scalar?_number {c : Char} (hc : c = '-' ∨ isDecimal c = true) (cs : List Char) :
    scalar? (c :: cs) = (NumberLiteral.read? (c :: cs)).map fun (literal, rest) =>
      (literal.value, rest) := by
  have hquote : c ≠ '"' := ne_of_number hc (by decide) (by decide)
  have hnone : ∀ d front, d ≠ '-' → isDecimal d = false →
      dropFront? (d :: front) (c :: cs) = none := by
    intro d front hminus hdigit
    exact if_neg (ne_of_number hc hminus hdigit).symm
  have hnull : dropFront? "null".toList (c :: cs) = none := hnone 'n' _ (by decide) (by decide)
  have htrue : dropFront? "true".toList (c :: cs) = none := hnone 't' _ (by decide) (by decide)
  have hfalse : dropFront? "false".toList (c :: cs) = none := hnone 'f' _ (by decide) (by decide)
  unfold scalar?
  split
  · next heq => exact absurd (List.cons.inj heq).1 hquote
  · simp only [hnull, htrue, hfalse]

/-- An integer of sixty-four bits, with or without a sign, is read as it is written. -/
theorem scalar?_integer {i : Int} (hlow : -(2 ^ 63) ≤ i) (hhigh : i < 2 ^ 64) {rest : List Char}
    (hrest : Ends rest) : scalar? (integer i ++ rest) = some (int i, rest) := by
  cases i with
  | ofNat n =>
      have hread := NumberLiteral.read?_decimal n hrest
      obtain ⟨c, digits, hdigits⟩ := List.exists_cons_of_ne_nil (decimal_ne_nil n)
      have hc : isDecimal c = true := isDecimal_of_mem_decimal (hdigits ▸ List.mem_cons_self)
      rw [integer, hdigits, List.cons_append, scalar?_number (.inr hc), ← List.cons_append,
        ← hdigits, hread, Option.map_some]
      exact congrArg (fun value => some (value, rest))
        (NumberLiteral.value_decimal (Int.ofNat_lt.1 hhigh))
  | negSucc n =>
      have hread := NumberLiteral.read?_minus_decimal (n + 1) hrest
      rw [integer, List.cons_append, scalar?_number (.inl rfl), ← List.cons_append, hread,
        Option.map_some]
      exact congrArg (fun value => some (value, rest))
        (NumberLiteral.value_minus_decimal n.succ_pos (by omega))

end Number

section Value

/-- What can be written so that it is read back: no number but the integers of sixty-four bits,
and no array or object inside more than `depth` others. -/
inductive Writable : (depth : Nat) → Json → Prop
  | null {depth : Nat} : Writable depth null
  | bool {depth : Nat} (b : Bool) : Writable depth (bool b)
  | int {depth : Nat} {i : Int} (hlow : -(2 ^ 63) ≤ i) (hhigh : i < 2 ^ 64) : Writable depth (int i)
  | string {depth : Nat} (s : String) : Writable depth (string s)
  | array {depth : Nat} {items : List Json} (hitems : ∀ item ∈ items, item.Writable depth) :
      Writable (depth + 1) (array items)
  | object {depth : Nat} {members : List (String × Json)}
      (hmembers : ∀ m ∈ members, m.2.Writable depth) : Writable (depth + 1) (object members)

/-- A text opens with neither a blank nor a mark. -/
def Opens (cs : List Char) : Prop :=
  ∃ c tail, cs = c :: tail ∧ isSpace c = false ∧ c ∉ marks

theorem Opens.ne_nil {cs : List Char} (hopens : Opens cs) : cs ≠ [] := by
  obtain ⟨c, tail, rfl, _⟩ := hopens
  exact List.cons_ne_nil c tail

theorem Opens.skip_append {cs : List Char} (hopens : Opens cs) (rest : List Char) :
    skip (cs ++ rest) = cs ++ rest := by
  obtain ⟨c, tail, rfl, hspace, _⟩ := hopens
  rw [skip, List.cons_append, List.dropWhile_cons, hspace, if_neg Bool.false_ne_true]

theorem opens_integer (i : Int) : Opens (integer i) := by
  obtain ⟨c, tail, hdigits⟩ := List.exists_cons_of_ne_nil (integer_ne_nil i)
  have hc := mem_integer (hdigits ▸ List.mem_cons_self : c ∈ integer i)
  have hmark : c ∉ marks := by
    have hother : ∀ d ∈ marks, d ≠ '-' ∧ isDecimal d = false :=
      forall_mem_marks (by decide) (by decide) (by decide)
    exact fun hmem => ne_of_number hc (hother c hmem).1 (hother c hmem).2 rfl
  have hspace : c ≠ ' ' := ne_of_number hc (by decide) rfl
  have hfeed : c ≠ '\n' := ne_of_number hc (by decide) rfl
  have hreturn : c ≠ '\r' := ne_of_number hc (by decide) rfl
  have htab : c ≠ '\t' := ne_of_number hc (by decide) rfl
  exact ⟨c, tail, hdigits, by simp [isSpace, hspace, hfeed, hreturn, htab], hmark⟩

theorem Writable.opens {depth : Nat} {j : Json} (hj : j.Writable depth) : Opens j.compact := by
  cases hj with
  | null => exact ⟨'n', _, rfl, by decide, by decide⟩
  | bool b => cases b <;> exact ⟨_, _, rfl, by decide, by decide⟩
  | int _ _ =>
      rw [compact]
      exact opens_integer _
  | string s => exact ⟨'"', _, rfl, by decide, by decide⟩
  | array _ => exact ⟨'[', _, rfl, by decide, by decide⟩
  | object _ => exact ⟨openBrace, _, rfl, by decide, by decide⟩

/-- What opens with no bracket is read as a single value. -/
theorem value?_single {c : Char} (hbracket : c ≠ '[') (hbrace : c ≠ openBrace) (depth : Nat)
    (cs : List Char) : value? depth (c :: cs) = scalar? (c :: cs) := by
  cases depth with
  | zero =>
      rw [value?]
      · exact fun rest heq => hbracket (List.cons.inj heq).1
      · exact fun rest heq => hbrace (List.cons.inj heq).1
  | succ depth =>
      rw [value?]
      · exact fun rest heq => hbracket (List.cons.inj heq).1
      · exact fun rest heq => hbrace (List.cons.inj heq).1

/-- A name and its value with a colon between them. -/
def memberText (m : String × Json) : List Char :=
  stringText m.1 ++ ':' :: m.2.compact

theorem compactItems_eq_join (items : List Json) :
    compactItems items = join [','] (items.map compact) := by
  induction items with
  | nil => rfl
  | cons item items ih =>
      cases items with
      | nil => rfl
      | cons next items =>
          have hmore : (next :: items).map compact ≠ [] := List.cons_ne_nil _ _
          rw [List.map_cons, join_cons_of_ne_nil hmore, ← ih]
          rfl

theorem compactMembers_eq_join (members : List (String × Json)) :
    compactMembers members = join [','] (members.map memberText) := by
  induction members with
  | nil => rfl
  | cons m members ih =>
      cases members with
      | nil => rfl
      | cons next members =>
          have hmore : (next :: members).map memberText ≠ [] := List.cons_ne_nil _ _
          rw [List.map_cons, join_cons_of_ne_nil hmore, ← ih]
          simp [compactMembers, memberText]

theorem length_le_join {parts : List (List Char)} (hparts : ∀ part ∈ parts, Opens part) :
    parts.length ≤ (join [','] parts).length := by
  induction parts with
  | nil => exact Nat.zero_le _
  | cons part parts ih =>
      obtain ⟨hpart, hrest⟩ := List.forall_mem_cons.1 hparts
      have hpos := List.length_pos_iff.2 hpart.ne_nil
      cases parts with
      | nil => exact hpos
      | cons next parts =>
          have hlength := ih hrest
          rw [join_cons_of_ne_nil (List.cons_ne_nil _ _)]
          simp only [List.length_append, List.length_cons] at hlength ⊢
          omega

theorem length_le_join_append {parts : List (List Char)} (hparts : ∀ part ∈ parts, Opens part)
    (rest : List Char) : parts.length ≤ (join [','] parts ++ rest).length := by
  rw [List.length_append]
  exact Nat.le_add_right_of_le (length_le_join hparts)

section Elements

theorem ends_cons {c : Char} (hc : c ∈ marks) (rest : List Char) :
    Ends (c :: rest) := by
  intro d hd
  rwa [← Option.some.inj hd]

theorem skip_mark {c : Char} (hc : c ∈ marks) (rest : List Char) :
    skip (c :: rest) = c :: rest := by
  have hnone : ∀ c ∈ marks, isSpace c = false := forall_mem_marks rfl rfl rfl
  rw [skip, List.dropWhile_cons, hnone c hc, if_neg Bool.false_ne_true]

variable {element? : List Char → Option (Json × List Char)}

/-- Written values are read if there is fuel for each of them. -/
theorem items?_join {items : List Json} (hne : items ≠ [])
    (hopens : ∀ item ∈ items, Opens item.compact)
    (hread : ∀ item ∈ items, ∀ {rest}, Ends rest →
      element? (item.compact ++ rest) = some (item, rest))
    {fuel : Nat} (hfuel : items.length ≤ fuel) (rest : List Char) :
    items? element? fuel (join [','] (items.map compact) ++ ']' :: rest) = some (items, rest) := by
  induction items generalizing fuel with
  | nil => exact absurd rfl hne
  | cons item items ih =>
      obtain ⟨hfirst, hothers⟩ := List.forall_mem_cons.1 hopens
      obtain ⟨hitem, hitems⟩ := List.forall_mem_cons.1 hread
      obtain ⟨fuel, rfl⟩ := Nat.exists_eq_add_one_of_ne_zero (Nat.ne_of_gt (Nat.lt_of_lt_of_le
        (Nat.succ_pos _) hfuel))
      cases items with
      | nil =>
          have hclose : ']' ∈ marks := by decide
          rw [List.map_singleton, join, items?, hfirst.skip_append, hitem (ends_cons hclose rest)]
          simp only [Option.bind_eq_bind, Option.bind_some, skip_mark hclose rest]
      | cons next items =>
          have hcomma : ',' ∈ marks := by decide
          have hmore : (next :: items).map compact ≠ [] := List.cons_ne_nil _ _
          have hlater := ih (List.cons_ne_nil _ _) hothers hitems (Nat.le_of_succ_le_succ hfuel)
          rw [List.map_cons, join_cons_of_ne_nil hmore, List.append_assoc, List.cons_append, items?,
            hfirst.skip_append, hitem (ends_cons hcomma _)]
          simp only [Option.bind_eq_bind, Option.bind_some, skip_mark hcomma, hlater]

theorem name?_stringText (name : String) (rest : List Char) :
    name? (stringText name ++ ':' :: rest) = some (some name, skip rest) := by
  have hbody := stringBody_flatMap_escapeChar name.toList (':' :: rest)
  have hcolon : skip (':' :: rest) = ':' :: rest := rfl
  simp only [stringText, List.cons_append, List.append_assoc, List.nil_append]
  rw [name?, hbody]
  simp only [Option.bind_eq_bind, Option.bind_some, hcolon, Option.map_some, String.ofList_toList]

theorem opens_memberText (m : String × Json) : Opens (memberText m) :=
  ⟨'"', _, rfl, by decide, by decide⟩

/-- Written members are read if there is fuel for each of them. -/
theorem members?_join {members : List (String × Json)} (hne : members ≠ [])
    (hopens : ∀ m ∈ members, Opens m.2.compact)
    (hread : ∀ m ∈ members, ∀ {rest}, Ends rest →
      element? (m.2.compact ++ rest) = some (m.2, rest))
    {fuel : Nat} (hfuel : members.length ≤ fuel) (rest : List Char) :
    members? element? fuel (join [','] (members.map memberText) ++ closeBrace :: rest) =
      some (some members, rest) := by
  induction members generalizing fuel with
  | nil => exact absurd rfl hne
  | cons m members ih =>
      obtain ⟨hfirst, hothers⟩ := List.forall_mem_cons.1 hopens
      obtain ⟨hvalue, hvalues⟩ := List.forall_mem_cons.1 hread
      obtain ⟨fuel, rfl⟩ := Nat.exists_eq_add_one_of_ne_zero (Nat.ne_of_gt (Nat.lt_of_lt_of_le
        (Nat.succ_pos _) hfuel))
      cases members with
      | nil =>
          have hclose : closeBrace ∈ marks := by decide
          rw [List.map_singleton, join, members?, (opens_memberText m).skip_append, memberText,
            List.append_assoc, List.cons_append, name?_stringText]
          simp only [Option.bind_eq_bind, Option.bind_some, hfirst.skip_append,
            hvalue (ends_cons hclose rest), skip_mark hclose rest]
          rfl
      | cons next members =>
          have hcomma : ',' ∈ marks := by decide
          have hmore : (next :: members).map memberText ≠ [] := List.cons_ne_nil _ _
          have hlater := ih (List.cons_ne_nil _ _) hothers hvalues (Nat.le_of_succ_le_succ hfuel)
          rw [List.map_cons, join_cons_of_ne_nil hmore, List.append_assoc, List.cons_append,
            members?, (opens_memberText m).skip_append, memberText, List.append_assoc,
            List.cons_append, name?_stringText]
          simp only [Option.bind_eq_bind, Option.bind_some, hfirst.skip_append,
            hvalue (ends_cons hcomma _), skip_mark hcomma, hlater]
          rfl

end Elements

theorem opens_join {part : List Char} {parts : List (List Char)} (hpart : Opens part) :
    Opens (join [','] (part :: parts)) := by
  obtain ⟨c, tail, rfl, hspace, hclose⟩ := hpart
  cases parts with
  | nil => exact ⟨c, tail, rfl, hspace, hclose⟩
  | cons next parts => exact ⟨c, _, rfl, hspace, hclose⟩

theorem value?_array {inner rest : List Char} (hopens : Opens inner) (depth : Nat) :
    value? (depth + 1) ('[' :: (inner ++ rest)) =
      (items? (value? depth) (inner ++ rest).length (inner ++ rest)).map fun (items, rest) =>
        (array items, rest) := by
  have hskip := hopens.skip_append rest
  obtain ⟨c, tail, rfl, _, hclose⟩ := hopens
  have hbracket : c ≠ ']' := by
    rintro rfl
    exact hclose (by decide)
  rw [value?, hskip]
  split
  · next heq => exact absurd (List.cons.inj heq).1 hbracket
  · rfl

theorem value?_object {inner rest : List Char} (hopens : Opens inner) (depth : Nat) :
    value? (depth + 1) (openBrace :: (inner ++ rest)) =
      (members? (value? depth) (inner ++ rest).length (inner ++ rest)).map fun
        | (some members, rest) => (object members, rest)
        | (none, rest) => (unreadable, rest) := by
  have hskip := hopens.skip_append rest
  obtain ⟨c, tail, rfl, _, hclose⟩ := hopens
  have hbrace : c ≠ '\x7d' := by
    rintro rfl
    exact hclose (by decide)
  rw [openBrace, value?, hskip]
  split
  · next heq => exact absurd (List.cons.inj heq).1 hbrace
  · rfl

/-- A value that can be written is read back, and what stands behind it is left. -/
theorem Writable.value?_compact {depth : Nat} {j : Json} (hj : j.Writable depth) {rest : List Char}
    (hrest : Ends rest) : value? depth (j.compact ++ rest) = some (j, rest) := by
  induction hj generalizing rest with
  | null => exact value?_single (by decide) (by decide) _ _
  | bool b =>
      cases b with
      | false => exact value?_single (by decide) (by decide) _ _
      | true => exact value?_single (by decide) (by decide) _ _
  | @int depth i hlow hhigh =>
      obtain ⟨c, tail, hdigits⟩ := List.exists_cons_of_ne_nil (integer_ne_nil i)
      have hc := mem_integer (hdigits ▸ List.mem_cons_self : c ∈ integer i)
      have hbracket := ne_of_number hc (by decide) (by decide : isDecimal '[' = false)
      have hbrace := ne_of_number hc (by decide) (by decide : isDecimal openBrace = false)
      have hread := scalar?_integer hlow hhigh hrest
      rw [hdigits, List.cons_append] at hread
      rw [compact, hdigits, List.cons_append, value?_single hbracket hbrace, hread]
  | string s =>
      have hbody := stringBody_flatMap_escapeChar s.toList rest
      simp only [compact, stringText, List.cons_append, List.append_assoc, List.nil_append]
      rw [value?_single (by decide) (by decide), scalar?, hbody]
      simp only [Option.map_some, String.ofList_toList]
  | @array depth items hitems ih =>
      cases items with
      | nil => rfl
      | cons item items =>
          have hopens : ∀ j ∈ item :: items, Opens j.compact := fun j hj => (hitems j hj).opens
          have hinner : Opens (join [','] ((item :: items).map compact)) :=
            opens_join (hopens item List.mem_cons_self)
          have hfuel := length_le_join_append (List.forall_mem_map.2 hopens) (']' :: rest)
          rw [List.length_map] at hfuel
          simp only [compact, compactItems_eq_join, List.cons_append, List.append_assoc,
            List.nil_append]
          rw [value?_array hinner, items?_join (List.cons_ne_nil _ _) hopens ih hfuel]
          rfl
  | @object depth members hmembers ih =>
      cases members with
      | nil => rfl
      | cons m members =>
          have hopens : ∀ p ∈ m :: members, Opens p.2.compact := fun p hp => (hmembers p hp).opens
          have hnamed : ∀ part ∈ (m :: members).map memberText, Opens part :=
            List.forall_mem_map.2 fun p _ => opens_memberText p
          have hinner : Opens (join [','] ((m :: members).map memberText)) :=
            opens_join (opens_memberText m)
          have hfuel := length_le_join_append hnamed (closeBrace :: rest)
          rw [List.length_map] at hfuel
          simp only [compact, compactMembers_eq_join, List.cons_append, List.append_assoc,
            List.nil_append]
          rw [value?_object hinner, members?_join (List.cons_ne_nil _ _) hopens ih hfuel]
          rfl

/-- What can be written within the depth that is read comes back from its compact form. -/
theorem Writable.read?_compact {j : Json} (hj : j.Writable depthLimit) :
    read? j.compact = some j := by
  have hend : Ends [] := fun _ hc => by cases hc
  have hread := hj.value?_compact hend
  have hskip := hj.opens.skip_append []
  rw [List.append_nil] at hread hskip
  rw [read?, readNested?, hskip, hread]
  rfl

end Value

end Counterpart.Json
