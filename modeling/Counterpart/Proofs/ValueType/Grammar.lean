/-
The grammar of parameter types, said without the reader:

    value := ["mut "] base
    base  := scalar | scalar "*" | scalar "[" length "]" | "cstr" | "bytes[" INT "]"
           | "struct\x7b" scalar ("," scalar)* "\x7d"

Blanks may stand around the parts.  The reader accepts this grammar and two things more: a plus sign
in front of a size, and positions of a structure that hold nothing.
-/
import Counterpart.Proofs.Length.Grammar
import Counterpart.Proofs.Length.Token
import Counterpart.Proofs.Text.Padding
import Counterpart.Proofs.ValueType.Printing

namespace Counterpart

open Text

namespace ScalarType

variable {t : ScalarType} {name cs : List Char}

/-- A name of the vocabulary stands for the type. -/
def Named (t : ScalarType) (name : List Char) : Prop :=
  ofName? (String.ofList name) = some t

/-- A text is a name for the type with blanks around it. -/
def Occupies (t : ScalarType) (cs : List Char) : Prop :=
  ∃ name, t.Named name ∧ Padded name cs

end ScalarType

/-- What a grammar takes for a size, and for the fields of a structure between its commas. -/
structure TypeGrammar where
  Size : List Char → Nat → Prop
  Fields : List (List Char) → List ScalarType → Prop

namespace TypeGrammar

/-- A type without a mark of mutability, and what it can stand for. -/
inductive Base (g : TypeGrammar) : List Char → ValueType → Prop
  | scalar {t : ScalarType} {name : List Char} (hname : t.Named name) : Base g name (.scalar t)
  | single {t : ScalarType} {name head : List Char} (isMutable : Bool) (hname : t.Named name)
      (hhead : Trailed name head) : Base g (head ++ ['*']) (.buffer t (.const 1) isMutable)
  | buffer {t : ScalarType} {name head inner : List Char} {tokens : List LengthToken}
      {length : LengthExpr} (isMutable : Bool) (hname : t.Named name) (hhead : Trailed name head)
      (htokens : LengthToken.Spelled inner tokens)
      (hlength : LengthExpr.Derives .sum tokens length) :
      Base g (head ++ '[' :: inner ++ [']']) (.buffer t length isMutable)
  | cstring (isMutable : Bool) : Base g "cstr".toList (.cstring isMutable)
  | bytes {head inner digits : List Char} {size : Nat} (isMutable : Bool)
      (hhead : Trailed "bytes".toList head) (hinner : Padded digits inner)
      (hsize : g.Size digits size) :
      Base g (head ++ '[' :: inner ++ [']']) (.bytes size isMutable)
  | aggregate {head : List Char} {positions : List (List Char)} {fields : List ScalarType}
      (hhead : Trailed "struct".toList head) (hne : positions ≠ [])
      (hfields : g.Fields positions fields) :
      Base g (head ++ '\x7b' :: join [','] positions ++ ['\x7d']) (.aggregate fields)

/-- A text stands for a type.  The mark is there exactly if the type is that of a pointer through
which may be written. -/
inductive Writes (g : TypeGrammar) : List Char → ValueType → Prop
  | unmarked {base cs : List Char} {v : ValueType} (hbase : g.Base base v)
      (hmutable : v.isMutable = false) (hcs : Padded base cs) : Writes g cs v
  | marked {head base cs : List Char} {v : ValueType} (hbase : g.Base base v)
      (hmutable : v.isMutable = true) (hhead : Trailed "mut ".toList head)
      (hcs : Padded (head ++ base) cs) : Writes g cs v

/-- A size is a run of digits, and every position of a structure holds a scalar name. -/
def documented : TypeGrammar where
  Size digits size := LengthToken.Denotes digits (.number size)
  Fields positions fields := List.Forall₂ ScalarType.Occupies fields positions

/-- The fields at the positions that are not blank. -/
inductive Skipping : List (List Char) → List ScalarType → Prop
  | nil : Skipping [] []
  | blank {position : List Char} {positions : List (List Char)} {fields : List ScalarType}
      (hblank : Blank position) (hrest : Skipping positions fields) :
      Skipping (position :: positions) fields
  | field {t : ScalarType} {position : List Char} {positions : List (List Char)}
      {fields : List ScalarType} (hfield : t.Occupies position)
      (hrest : Skipping positions fields) : Skipping (position :: positions) (t :: fields)

/-- A size may have a plus sign, and only some position of a structure must hold a name. -/
def accepted : TypeGrammar where
  Size digits size := ∃ run, (digits = run ∨ digits = '+' :: run) ∧
    LengthToken.Denotes run (.number size)
  Fields positions fields := fields ≠ [] ∧ Skipping positions fields

end TypeGrammar

section Vocabulary

variable {t : ScalarType} {name cs : List Char}

/-- Every name of the vocabulary is an identifier and opens no other shape of a type. -/
theorem TypeName.shape_all : ∀ entry ∈ TypeName.all, isIdentifier entry.name.toList = true ∧
    entry.name.toList.head? ≠ some 's' ∧ entry.name.toList.head? ≠ some 'm' ∧
    entry.name.toList ≠ "cstr".toList ∧ entry.name.toList ≠ "bytes".toList := by
  decide +kernel

namespace ScalarType

theorem Named.shape (hname : t.Named name) : isIdentifier name = true ∧ name.head? ≠ some 's' ∧
    name.head? ≠ some 'm' ∧ name ≠ "cstr".toList ∧ name ≠ "bytes".toList := by
  obtain ⟨entry, hfind, _⟩ := Option.map_eq_some_iff.1 hname
  have hentry : entry.name = String.ofList name := by
    simpa using List.find?_some hfind
  have hshape := TypeName.shape_all entry (List.mem_of_find?_eq_some hfind)
  rwa [hentry, String.toList_ofList] at hshape

theorem Named.notMem (hname : t.Named name) {c : Char} (hc : isIdentifierPart c = false) :
    c ∉ name := by
  intro hmem
  rw [isIdentifierPart_of_mem hname.shape.1 hmem] at hc
  cases hc

theorem Named.plainName (hname : t.Named name) : t.PlainName name where
  isWord := isWord_of_isIdentifier hname.shape.1
  named := hname
  star := hname.notMem (by decide)
  bracket := hname.notMem (by decide)
  comma := hname.notMem (by decide)
  start := hname.shape.2.1
  ne_nil := by
    rintro rfl
    cases hname.shape.1
  ne_cstr := hname.shape.2.2.2.1
  ne_bytes := hname.shape.2.2.2.2

/-- Without blanks at its ends the text is the name itself. -/
theorem Occupies.named (hfield : t.Occupies cs) (htight : Tight cs) : t.Named cs := by
  obtain ⟨name, hname, hpadded⟩ := hfield
  have htrim := hpadded.trim_eq
  rw [htight.trim_eq, trim_of_isWord hname.plainName.isWord] at htrim
  rwa [htrim]

theorem Occupies.not_blank (hfield : t.Occupies cs) : ¬ Blank cs := by
  obtain ⟨name, hname, hpadded⟩ := hfield
  intro hblank
  have htrim := hpadded.trim_eq
  rw [trim_eq_nil_iff.2 hblank, trim_of_isWord hname.plainName.isWord] at htrim
  exact hname.plainName.ne_nil htrim.symm

theorem Occupies.notMem (hfield : t.Occupies cs) {c : Char} (hblank : isBlank c = false)
    (hc : isIdentifierPart c = false) : c ∉ cs := by
  obtain ⟨name, hname, hpadded⟩ := hfield
  rw [hpadded.mem_iff hblank]
  exact hname.notMem hc

end ScalarType

end Vocabulary

namespace TypeGrammar

section Size

variable {digits : List Char} {size : Nat}

theorem denotes_number_iff : LengthToken.Denotes digits (.number size) ↔
    (digits? 10 digits).filter (· < 2 ^ 64) = some size := by
  rw [Option.filter_eq_some_iff, decide_eq_true_eq, LengthToken.digits?_eq_some_iff]
  constructor
  · intro hdenotes
    cases hdenotes with
    | number hne hdigits hfits => exact ⟨⟨⟨hne, hdigits⟩, rfl⟩, hfits⟩
  · rintro ⟨⟨⟨hne, hdigits⟩, rfl⟩, hfits⟩
    exact .number hne hdigits hfits

theorem notMem_of_denotes_number (hdenotes : LengthToken.Denotes digits (.number size)) {c : Char}
    (hc : isDecimal c = false) : c ∉ digits := by
  intro hmem
  cases hdenotes with
  | number _ hdigits =>
      rw [hdigits c hmem] at hc
      cases hc

theorem isWord_size (hsize : accepted.Size digits size) : IsWord digits := by
  obtain ⟨run, hrun, hdenotes⟩ := hsize
  have hword : IsWord run := by
    cases hdenotes with
    | number _ hdigits =>
        intro c hc
        exact not_isBlank_of_isIdentifierPart (isIdentifierPart_of_isDecimal (hdigits c hc))
  rcases hrun with rfl | rfl
  · exact hword
  · exact isWord_cons (by decide) hword

end Size

section Fields

variable {positions : List (List Char)} {fields : List ScalarType}

theorem skipping_blank_iff {position : List Char} (hblank : Blank position) :
    Skipping (position :: positions) fields ↔ Skipping positions fields := by
  constructor
  · intro hskipping
    cases hskipping with
    | blank _ hrest => exact hrest
    | field hfield _ => exact absurd hblank hfield.not_blank
  · exact .blank hblank

theorem skipping_field_iff {position : List Char} (hblank : ¬ Blank position) :
    Skipping (position :: positions) fields ↔
      ∃ t rest, t.Occupies position ∧ Skipping positions rest ∧ fields = t :: rest := by
  constructor
  · intro hskipping
    cases hskipping with
    | blank hposition _ => exact absurd hposition hblank
    | field hfield hrest => exact ⟨_, _, hfield, hrest, rfl⟩
  · rintro ⟨t, rest, hfield, hrest, rfl⟩
    exact .field hfield hrest

theorem Skipping.notMem (hskipping : Skipping positions fields) {c : Char}
    (hblank : isBlank c = false) (hc : isIdentifierPart c = false) :
    ∀ position ∈ positions, c ∉ position := by
  induction hskipping with
  | nil => exact List.forall_mem_nil _
  | blank hposition _ ih => exact List.forall_mem_cons.2 ⟨hposition.notMem hblank, ih⟩
  | field hfield _ ih => exact List.forall_mem_cons.2 ⟨hfield.notMem hblank hc, ih⟩

theorem Skipping.length_le (hskipping : Skipping positions fields) :
    fields.length ≤ positions.length := by
  induction hskipping with
  | nil => exact Nat.le_refl 0
  | blank _ _ ih => exact Nat.le_succ_of_le ih
  | field _ _ ih => exact Nat.succ_le_succ ih

/-- No position is skipped if there are as many fields as positions. -/
theorem skipping_length_iff : Skipping positions fields ∧ fields.length = positions.length ↔
    List.Forall₂ ScalarType.Occupies fields positions := by
  constructor
  · rintro ⟨hskipping, hlength⟩
    induction hskipping with
    | nil => exact .nil
    | blank _ hrest _ =>
        have hle := hrest.length_le
        rw [List.length_cons] at hlength
        omega
    | field hfield _ ih => exact .cons hfield (ih (Nat.succ.inj hlength))
  · intro hall
    refine ⟨?_, hall.length_eq⟩
    induction hall with
    | nil => exact .nil
    | cons hfield _ ih => exact .field hfield ih

end Fields

section Base

variable {g : TypeGrammar} {part cs body whole : List Char} {v : ValueType}

/-- A text opens neither with a blank nor as a mark of mutability does. -/
def Opening (cs : List Char) : Prop :=
  ∃ c rest, cs = c :: rest ∧ isBlank c = false ∧ c ≠ 'm'

theorem Opening.append (hopening : Opening part) (more : List Char) : Opening (part ++ more) := by
  obtain ⟨c, rest, rfl, hblank, hmark⟩ := hopening
  exact ⟨c, rest ++ more, rfl, hblank, hmark⟩

theorem Opening.trailed (hopening : Opening part) (htrailed : Trailed part cs) : Opening cs := by
  obtain ⟨back, _, rfl⟩ := htrailed
  exact hopening.append back

theorem Opening.first (hopening : Opening cs) : ∀ c ∈ cs.head?, isBlank c = false := by
  obtain ⟨c, rest, rfl, hblank, _⟩ := hopening
  intro d hd
  rwa [← Option.some.inj hd]

theorem opening_name {t : ScalarType} {name : List Char} (hname : t.Named name) : Opening name := by
  cases name with
  | nil => exact absurd rfl hname.plainName.ne_nil
  | cons c rest =>
      refine ⟨c, rest, rfl, hname.plainName.isWord c List.mem_cons_self, ?_⟩
      rintro rfl
      exact hname.shape.2.2.1 rfl

theorem Base.opening (hbase : g.Base body v) : Opening body := by
  cases hbase with
  | scalar hname => exact opening_name hname
  | single _ hname hhead => exact ((opening_name hname).trailed hhead).append _
  | buffer _ hname hhead => exact (((opening_name hname).trailed hhead).append _).append _
  | cstring => exact ⟨'c', _, rfl, by decide, by decide⟩
  | bytes _ hhead =>
      have hkeyword : Opening "bytes".toList := ⟨'b', _, rfl, by decide, by decide⟩
      exact ((hkeyword.trailed hhead).append _).append _
  | aggregate hhead =>
      have hkeyword : Opening "struct".toList := ⟨'s', _, rfl, by decide, by decide⟩
      exact ((hkeyword.trailed hhead).append _).append _

theorem Base.tight (hbase : g.Base body v) : Tight body := by
  refine ⟨hbase.opening.first, ?_⟩
  cases hbase with
  | scalar hname => exact (Tight.of_isWord hname.plainName.isWord).last
  | cstring =>
      have hkeyword : IsWord "cstr".toList := by decide
      exact (Tight.of_isWord hkeyword).last
  | single | buffer | bytes | aggregate =>
      intro c hc
      rw [List.getLast?_concat] at hc
      rw [← Option.some.inj hc]
      decide

end Base

end TypeGrammar

end Counterpart
