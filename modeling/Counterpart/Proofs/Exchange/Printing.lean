/-
What a driver prints: one line of fields for the result, one for the memory behind each
mutable pointer, and a last one.  The function under comparison prints lines of its own
around them, of any bytes that do not open with the mark of the report.
-/
import Counterpart.Exchange.Report
import Counterpart.Proofs.Text.Numeral
import Counterpart.Proofs.Text.Utf8
import Counterpart.Proofs.Text.Words

namespace Counterpart

open Text

/-- The fields of a result.  Without bytes the last field of a string is empty. -/
def ReturnValue.printed : ReturnValue → List (List Char)
  | .void => [['V']]
  | .scalar v => [if v.ty.isInteger then ['I'] else ['F'], hexadecimal v.bits.toNat]
  | .pointer .null => [['P'], "NULL".toList]
  | .pointer (.param param offset) => [['P'], decimal param, decimal offset]
  | .pointer .foreign => [['P'], "FOREIGN".toList]
  | .str none => [['S'], "NULL".toList]
  | .str (some content) => [['S'], decimal content.length, hexBytes content]

/-- A result of the declared type.  Every number is one of sixty-four bits, and a scalar
has no bits outside its type. -/
inductive ReturnValue.Fits : ReturnType → ReturnValue → Prop
  | void : Fits .void .void
  | scalar (v : ScalarValue) (hbits : v.bits.toNat < 2 ^ (8 * v.ty.size)) :
      Fits (.scalar v.ty) (.scalar v)
  | null : Fits .pointer (.pointer .null)
  | param (param offset : Nat) (hparam : param < 2 ^ 64) (hoffset : offset < 2 ^ 64) :
      Fits .pointer (.pointer (.param param offset))
  | foreign : Fits .pointer (.pointer .foreign)
  | noString : Fits .cstring (.str none)
  | string (content : Bytes) (hlength : content.length < 2 ^ 64) :
      Fits .cstring (.str (some content))

namespace DriverReport

/-- The fields of the memory behind a parameter. -/
def memoryFields : Nat × Bytes → List (List Char)
  | (index, content) =>
      ["MEM".toList, decimal index, decimal content.length, hexBytes content]

/-- The fields of the lines of a report, in the order in which they are printed. -/
def printed (report : DriverReport) : List (List (List Char)) :=
  (report.ret.toList.map fun value => "RET".toList :: value.printed) ++
    report.memory.map memoryFields ++
    if report.completed then [["END".toList]] else []

/-- A line of a report. -/
def lineOf (fields : List (List Char)) : List Char :=
  mark ++ join [' '] fields

/-- The result is one of the declared type, and memory stands behind mutable pointers. -/
structure Fits (sig : Signature) (report : DriverReport) : Prop where
  ret : ∀ value, report.ret = some value → value.Fits sig.ret
  memory : ∀ index content, (index, content) ∈ report.memory →
    (∃ p, sig.params[index]? = some p ∧ p.ty.isMutablePointer = true) ∧
      index < 2 ^ 64 ∧ content.length < 2 ^ 64

/-- A line that does not belong to a report. -/
def IsNoise (line : Bytes) : Prop :=
  0x0A ∉ line ∧ ¬ utf8 mark <+: line

instance (line : Bytes) : Decidable (IsNoise line) :=
  inferInstanceAs (Decidable (_ ∧ _))

/-- The output in which the lines of a report stand in order, among complete lines that
do not belong to it. -/
inductive Printed : List (List (List Char)) → Bytes → Prop
  | done : Printed [] []
  | noise {lines : List (List (List Char))} {rest : Bytes} (line : Bytes)
      (hnoise : IsNoise line) (hrest : Printed lines rest) :
      Printed lines (line ++ 0x0A :: rest)
  | line {lines : List (List (List Char))} {rest : Bytes} (fields : List (List Char))
      (hrest : Printed lines rest) :
      Printed (fields :: lines) (utf8 (lineOf fields) ++ 0x0A :: rest)

/-- A field is a text without blanks that is its own bytes. -/
def IsField (field : List Char) : Prop :=
  ∀ c ∈ field, isBlank c = false ∧ 0 < c.toNat ∧ c.toNat < 0x80

instance (field : List Char) : Decidable (IsField field) :=
  List.decidableBAll _ field

theorem IsField.isWord {field : List Char} (hfield : IsField field) : IsWord field :=
  fun c hc => (hfield c hc).1

theorem digitChar_plain : ∀ d < 16,
    isBlank d.digitChar = false ∧ 0 < d.digitChar.toNat ∧ d.digitChar.toNat < 0x80 := by
  decide

theorem isField_toDigits {base : Nat} (hbase : IsBase base) (n : Nat) :
    IsField (Nat.toDigits base n) := by
  intro c hc
  obtain ⟨d, hd, rfl⟩ := exists_digit_of_mem_toDigits hbase hc
  exact digitChar_plain d (Nat.lt_of_lt_of_le hd hbase.2)

theorem isField_hexBytes (content : Bytes) : IsField (hexBytes content) := by
  intro c hc
  obtain ⟨b, _, hbyte⟩ := List.mem_flatMap.1 hc
  have hb : b.toNat < 256 := b.toNat_lt
  rw [hexByte_eq] at hbyte
  simp only [List.mem_cons, List.not_mem_nil, or_false] at hbyte
  rcases hbyte with rfl | rfl
  · exact digitChar_plain _ (by omega)
  · exact digitChar_plain _ (by omega)

theorem isField_printed (value : ReturnValue) : ∀ field ∈ value.printed, IsField field := by
  have hdecimal := isField_toDigits isBase_ten
  have hhexadecimal := isField_toDigits isBase_sixteen
  cases value with
  | void => decide
  | scalar v =>
      have hform : IsField (if v.ty.isInteger then ['I'] else ['F']) := by
        split <;> decide
      simp [ReturnValue.printed, hform, hexadecimal, hhexadecimal]
  | pointer target =>
      have hform : IsField ['P'] := by decide
      cases target with
      | null => decide
      | param param offset => simp [ReturnValue.printed, hform, decimal, hdecimal]
      | foreign => decide
  | str content =>
      have hform : IsField ['S'] := by decide
      cases content with
      | none => decide
      | some content =>
          simp [ReturnValue.printed, hform, decimal, hdecimal, isField_hexBytes]

theorem isField_memoryFields (entry : Nat × Bytes) :
    ∀ field ∈ memoryFields entry, IsField field := by
  have hdecimal := isField_toDigits isBase_ten
  have hkeyword : IsField "MEM".toList := by decide
  obtain ⟨index, content⟩ := entry
  simp only [memoryFields, List.forall_mem_cons, decimal]
  exact ⟨hkeyword, hdecimal _, hdecimal _, isField_hexBytes _, by simp⟩

/-- Every field of a report can be told from the blanks around it. -/
theorem isField_of_mem_report {report : DriverReport} {fields : List (List Char)}
    (hfields : fields ∈ report.printed) : ∀ field ∈ fields, IsField field := by
  simp only [printed, List.mem_append, List.mem_map, Option.mem_toList] at hfields
  rcases hfields with (⟨value, _, rfl⟩ | ⟨entry, _, rfl⟩) | hlast
  · have hkeyword : IsField "RET".toList := by decide
    simp only [List.forall_mem_cons]
    exact ⟨hkeyword, isField_printed value⟩
  · exact isField_memoryFields entry
  · split at hlast
    · obtain rfl := List.mem_singleton.1 hlast
      decide
    · simp at hlast

end DriverReport

end Counterpart
