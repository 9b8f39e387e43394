/-
The text of a driver, line by line.  The only characters of it that open a mark of the report
stand in the statements that print one, so what a driver reports can be told from its text.
-/
import Counterpart.Exchange.Driver
import Counterpart.Proofs.Signature.Valid
import Counterpart.Proofs.Text.Identifier
import Counterpart.Proofs.Text.Occurrence

namespace Counterpart.Driver

open Text

/-- Text in which no mark of a report and no further line begins. -/
def IsCode (text : String) : Prop :=
  ∀ c ∈ text.toList, c ≠ '@' ∧ c ≠ '\n'

instance (text : String) : Decidable (IsCode text) :=
  List.decidableBAll _ text.toList

@[simp] theorem isCode_append {front back : String} :
    IsCode (front ++ back) ↔ IsCode front ∧ IsCode back := by
  simp only [IsCode, String.toList_append, List.forall_mem_append]

@[simp] theorem isCode_toString_string {text : String} : IsCode (toString text) ↔ IsCode text :=
  Iff.rfl

theorem toList_toString (n : Nat) : (toString n).toList = decimal n := by
  rw [Nat.toString_eq_repr, Nat.repr_eq_ofList_toDigits, String.toList_ofList]
  rfl

@[simp] theorem isCode_toString (n : Nat) : IsCode (toString n) := by
  intro c hc
  rw [toList_toString] at hc
  have hdigit := isDecimal_of_mem_decimal hc
  constructor
  · rintro rfl
    exact absurd hdigit (by decide)
  · rintro rfl
    exact absurd hdigit (by decide)

@[simp] theorem isCode_declared (ty : ScalarType) : IsCode ty.declared := by
  cases ty with
  | int width signed => cases width <;> cases signed <;> decide
  | f32 => decide
  | f64 => decide

theorem isCode_of_isIdentifier {name : String} (hname : isIdentifier name.toList = true) :
    IsCode name := by
  intro c hc
  have hpart := isIdentifierPart_of_mem hname hc
  constructor
  · rintro rfl
    exact absurd hpart (by decide)
  · rintro rfl
    exact absurd hpart (by decide)

theorem isCode_commaList {texts : List String} (htexts : ∀ text ∈ texts, IsCode text) :
    IsCode (commaList texts) := by
  have hcomma : IsCode ", " := by decide
  induction texts with
  | nil => decide
  | cons text texts ih =>
      have htext := htexts text List.mem_cons_self
      have hrest := ih fun other hother => htexts other (List.mem_cons_of_mem text hother)
      cases texts with
      | nil => exact htext
      | cons next texts =>
          rw [commaList, String.intercalate_cons_cons, isCode_append, isCode_append]
          exact ⟨⟨htext, hcomma⟩, hrest⟩

/-- A line of a driver: code alone, or code around the mark of a report. -/
inductive Line where
  | code (text : String)
  | report (front back : String)

namespace Line

def text : Line → String
  | code text => text
  | report front back => front ++ "@@EQ " ++ back

/-- What a line says behind the mark of a report. -/
def report? : Line → Option String
  | code _ => none
  | report _ back => some back

/-- Nothing but the mark of a report opens one. -/
def Plain : Line → Prop
  | code text => IsCode text
  | report front back => IsCode front ∧ IsCode back

instance (line : Line) : Decidable line.Plain :=
  match line with
  | code text => inferInstanceAs (Decidable (IsCode text))
  | report _ _ => inferInstanceAs (Decidable (_ ∧ _))

end Line

/-- The constants and the functions that every driver has. -/
def preludeLines (guardBytes : Nat) : List Line :=
  [ .code s!"#define EQ_GUARD {guardBytes}",
    .code "#define EQ_GUARD_BYTE 0xA5",
    .code s!"#define EQ_BAD_INPUT_EXIT {badInputStatus}" ] ++
    (prelude.take 7).map .code ++ [.report "    printf(\"\\n" "BADINPUT\\n\");"] ++
    (prelude.drop 8 ++ [""]).map .code

/-- The call as it is written. -/
def callExpr (sig : Signature) : String :=
  sig.name ++ "(" ++ commaList ((List.range sig.params.length).map fun i => s!"a{i}") ++ ")"

/-- The test whether a result points into the object of a parameter, and the report of it. -/
def rangeLines : Nat × Param → List Line
  | (i, p) =>
      if p.ty.isPointer then
        [.code (s!"    \x7d else if (a{i}_raw != NULL && (uintptr_t)r >= (uintptr_t)a{i}_raw && " ++
            s!"(uintptr_t)r <= (uintptr_t)a{i}_raw + a{i}_len + EQ_GUARD) \x7b"),
          .report "        printf(\"\\n" (s!"RET P %d %llu\\n\", {i}, " ++
            s!"(unsigned long long)((uintptr_t)r - (uintptr_t)a{i}_raw));")]
      else []

/-- The call and the report of its result. -/
def callLines (sig : Signature) : List Line :=
  match sig.ret with
  | .void => [.code ("    " ++ callExpr sig ++ ";"), .report "    printf(\"\\n" "RET V\\n\");"]
  | .scalar (.int width signed) =>
      [ .code ("    " ++ (ScalarType.int width signed).declared ++ " r = " ++ callExpr sig ++ ";"),
        .report "    printf(\"\\n" ("RET I %llx\\n\", (unsigned long long)(" ++
          (ScalarType.int width false).declared ++ ")r);") ]
  | .scalar .f32 =>
      [ .code ("    float r = " ++ callExpr sig ++ ";"),
        .report "    \x7b uint32_t bits; memcpy(&bits, &r, 4); printf(\"\\n"
          "RET F %llx\\n\", (unsigned long long)bits); \x7d" ]
  | .scalar .f64 =>
      [ .code ("    double r = " ++ callExpr sig ++ ";"),
        .report "    \x7b uint64_t bits; memcpy(&bits, &r, 8); printf(\"\\n"
          "RET F %llx\\n\", (unsigned long long)bits); \x7d" ]
  | .pointer =>
      [ .code ("    void *r = " ++ callExpr sig ++ ";"), .code "    if (r == NULL) \x7b",
        .report "        printf(\"\\n" "RET P NULL\\n\");" ] ++
        (numbered sig).flatMap rangeLines ++
        [ .code "    \x7d else \x7b", .report "        printf(\"\\n" "RET P FOREIGN\\n\");",
          .code "    \x7d" ]
  | .cstring =>
      [ .code ("    char *r = " ++ callExpr sig ++ ";"), .code "    if (r == NULL) \x7b",
        .report "        printf(\"\\n" "RET S NULL\\n\");", .code "    \x7d else \x7b",
        .code "        size_t n = strlen(r);",
        .report "        printf(\"\\n" "RET S %llu \", (unsigned long long)n);",
        .code "        eq_dump((const unsigned char *)r, n);",
        .code "        printf(\"\\n\");", .code "    \x7d" ]

/-- The report of the memory behind a mutable pointer. -/
def memoryReport : Nat × Param → List Line
  | (i, p) =>
      if p.ty.isMutablePointer then
        [ .code s!"    if (a{i}_raw != NULL) \x7b",
          .report "        printf(\""
            s!"MEM {i} %llu \", (unsigned long long)(a{i}_len + EQ_GUARD));",
          .code s!"        eq_dump(a{i}_raw, a{i}_len + EQ_GUARD);",
          .code "        printf(\"\\n\");",
          .code "    \x7d" ]
      else []

/-- What stands in front of the main function. -/
def headLines (sig : Signature) (guardBytes : Nat) : List Line :=
  preludeLines guardBytes ++ ((numbered sig).flatMap structLines).map .code ++
    [.code (declaration sig), .code ""]

/-- The text of a driver, line by line. -/
def sourceLines (sig : Signature) (guardBytes : Nat) : List Line :=
  headLines sig guardBytes ++ [.code "int main(void)", .code "\x7b"] ++
    ((numbered sig).flatMap readLines).map .code ++ [.code "    fflush(stdout);"] ++
    callLines sig ++ (numbered sig).flatMap memoryReport ++
    [ .report "    printf(\"" "END\\n\");", .code "    fflush(stdout);", .code "    return 0;",
      .code "\x7d" ]

section Text

/-- A text that is written out parts where its characters do. -/
theorem append_of_ofList {whole front back : List Char} (h : front ++ back = whole) :
    String.ofList whole = String.ofList front ++ String.ofList back := by
  rw [← h, String.ofList_append]

theorem append_append_of_ofList {whole front middle back : List Char}
    (h : front ++ (middle ++ back) = whole) :
    String.ofList whole = String.ofList front ++ (String.ofList middle ++ String.ofList back) := by
  rw [← h, String.ofList_append, String.ofList_append]

theorem unlines_nil : unlines [] = "" := rfl

theorem unlines_cons (line : String) (lines : List String) :
    unlines (line :: lines) = line ++ "\n" ++ unlines lines := by
  rw [unlines, List.map_cons, String.join_cons]
  rfl

theorem unlines_append (front back : List String) :
    unlines (front ++ back) = unlines front ++ unlines back := by
  rw [unlines, List.map_append, String.join_append]
  rfl

theorem map_text_code (texts : List String) : (texts.map Line.code).map Line.text = texts := by
  rw [List.map_map]
  exact List.map_id texts

/-- A test continues the line that closes what stands in front of it. -/
theorem append_rangeTest (entry : Nat × Param) : "    \x7d" ++ rangeTest entry =
    unlines ((rangeLines entry).map Line.text) ++ "    \x7d" := by
  obtain ⟨i, p⟩ := entry
  by_cases hpointer : p.ty.isPointer = true
  · have hopen : "    \x7d else if (a" = "    \x7d" ++ " else if (a" := append_of_ofList rfl
    have htest : "_len + EQ_GUARD) \x7b\n" = "_len + EQ_GUARD) \x7b" ++ "\n" :=
      append_of_ofList rfl
    have hprint : "        printf(\"\\n@@EQ RET P %d %llu\\n\", " =
        "        printf(\"\\n" ++ ("@@EQ " ++ "RET P %d %llu\\n\", ") :=
      append_append_of_ofList rfl
    have hclose : "_raw));\n    \x7d" = "_raw));" ++ ("\n" ++ "    \x7d") :=
      append_append_of_ofList rfl
    simp only [rangeTest, rangeLines, hpointer, if_true, List.map_cons, List.map_nil, Line.text,
      unlines_cons, toString]
    simp only [hopen, htest, hprint, hclose, String.append_assoc, unlines, List.map_nil,
      String.join_nil, String.empty_append]
  · simp [rangeTest, rangeLines, hpointer, unlines]

theorem append_join_rangeTest (entries : List (Nat × Param)) :
    "    \x7d" ++ String.join (entries.map rangeTest) =
      unlines ((entries.flatMap rangeLines).map Line.text) ++ "    \x7d" := by
  induction entries with
  | nil => rfl
  | cons entry entries ih =>
      rw [List.map_cons, String.join_cons, ← String.append_assoc, append_rangeTest,
        String.append_assoc, ih, List.flatMap_cons, List.map_append, unlines_append,
        String.append_assoc]

theorem callText_eq (sig : Signature) :
    callText sig = unlines ((callLines sig).map Line.text) := by
  cases hret : sig.ret with
  | void =>
      simp only [callText, callLines, callExpr, hret, List.map_cons, List.map_nil, Line.text,
        unlines_cons, unlines_nil, String.append_assoc, String.reduceAppend]
  | scalar ty =>
      cases ty with
      | int width signed =>
          have hlines : ");\n    printf(\"\\n@@EQ RET I %llx\\n\", (unsigned long long)(" =
              ");\n" ++ ("    printf(\"\\n@@EQ " ++
                "RET I %llx\\n\", (unsigned long long)(") := append_append_of_ofList rfl
          simp only [callText, callLines, callExpr, hret, List.map_cons, List.map_nil, Line.text,
            unlines_cons, unlines_nil, String.append_assoc, String.reduceAppend]
          rw [hlines, String.append_assoc, String.append_assoc]
      | f32 | f64 =>
          simp only [callText, callLines, callExpr, hret, List.map_cons, List.map_nil, Line.text,
            unlines_cons, unlines_nil, String.append_assoc, String.reduceAppend]
  | pointer =>
      have htests (rest : String) : "    \x7d" ++ (String.join ((numbered sig).map rangeTest) ++
          rest) = unlines (((numbered sig).flatMap rangeLines).map Line.text) ++
            ("    \x7d" ++ rest) := by
        rw [← String.append_assoc, append_join_rangeTest, String.append_assoc]
      simp only [callText, callLines, callExpr, hret, List.map_append, List.map_cons, List.map_nil,
        Line.text, unlines_append, unlines_cons, unlines_nil, String.append_assoc,
        String.reduceAppend]
      have hfirst :
          ");\n    if (r == NULL) \x7b\n        printf(\"\\n@@EQ RET P NULL\\n\");\n    \x7d" =
            ");\n    if (r == NULL) \x7b\n        printf(\"\\n@@EQ RET P NULL\\n\");\n" ++
              "    \x7d" :=
        append_of_ofList rfl
      have hlast : "    \x7d else \x7b\n        printf(\"\\n@@EQ RET P FOREIGN\\n\");\n    \x7d\n" =
          "    \x7d" ++ " else \x7b\n        printf(\"\\n@@EQ RET P FOREIGN\\n\");\n    \x7d\n" :=
        append_of_ofList rfl
      rw [hfirst, hlast, String.append_assoc, htests]
  | cstring =>
      simp only [callText, callLines, callExpr, hret, List.map_cons, List.map_nil, Line.text,
        unlines_cons, unlines_nil, String.append_assoc, String.reduceAppend]

theorem memoryLines_eq (entry : Nat × Param) :
    memoryLines entry = (memoryReport entry).map Line.text := by
  obtain ⟨i, p⟩ := entry
  by_cases hmutable : p.ty.isMutablePointer = true
  · have hprint : "        printf(\"@@EQ MEM " = "        printf(\"" ++ ("@@EQ " ++ "MEM ") :=
      append_append_of_ofList rfl
    simp only [memoryLines, memoryReport, hmutable, if_true, List.map_cons, List.map_nil, Line.text,
      toString]
    simp only [hprint, String.append_assoc]
  · simp [memoryLines, memoryReport, hmutable]

theorem preludeLines_text (guardBytes : Nat) :
    (preludeLines guardBytes).map Line.text =
      [s!"#define EQ_GUARD {guardBytes}", "#define EQ_GUARD_BYTE 0xA5",
        s!"#define EQ_BAD_INPUT_EXIT {badInputStatus}"] ++ prelude ++ [""] := by
  have hprint : "    printf(\"\\n@@EQ BADINPUT\\n\");" =
      "    printf(\"\\n" ++ ("@@EQ " ++ "BADINPUT\\n\");") := append_append_of_ofList rfl
  have hline : prelude = prelude.take 7 ++ ["    printf(\"\\n@@EQ BADINPUT\\n\");"] ++
      prelude.drop 8 := rfl
  conv => rhs; rw [hline, hprint]
  simp only [preludeLines, List.map_append, map_text_code, List.map_cons, List.map_nil, Line.text,
    String.append_assoc, List.append_assoc]

theorem source_eq (sig : Signature) (guardBytes : Nat) :
    source sig guardBytes = unlines ((sourceLines sig guardBytes).map Line.text) := by
  have hmemory : (numbered sig).flatMap memoryLines =
      ((numbered sig).flatMap memoryReport).map Line.text := by
    rw [List.map_flatMap]
    exact List.flatMap_congr fun entry _ => memoryLines_eq entry
  have hempty : unlines [""] = "\n" := rfl
  have hhead : unlines [declaration sig, "", "int main(void)", "\x7b"] =
      unlines [declaration sig, ""] ++ unlines ["int main(void)", "\x7b"] :=
    unlines_append [declaration sig, ""] ["int main(void)", "\x7b"]
  have hend : "    printf(\"" ++ "@@EQ " ++ "END\\n\");" = "    printf(\"@@EQ END\\n\");" := rfl
  simp only [source, sourceLines, headLines, List.map_append, preludeLines_text, map_text_code,
    unlines_append, callText_eq, hmemory, hempty, hhead, hend, List.map_cons, List.map_nil,
    Line.text, String.append_assoc]

end Text

section Plain

/-- What is written out can be looked through character by character. -/
theorem isCode_ofList {cs : List Char} (hcs : cs.all (fun c => c ≠ '@' ∧ c ≠ '\n') = true) :
    IsCode (String.ofList cs) := by
  unfold IsCode
  rw [String.toList_ofList]
  exact fun c hc => of_decide_eq_true (List.all_eq_true.1 hcs c hc)

theorem isCode_paramType (i : Nat) (ty : ValueType) : IsCode (paramType i ty) := by
  cases ty with
  | scalar ty => exact isCode_declared ty
  | buffer elem _ _ => exact isCode_append.2 ⟨isCode_declared elem, isCode_ofList (by decide)⟩
  | cstring _ => exact isCode_ofList (by decide)
  | bytes _ _ => exact isCode_ofList (by decide)
  | aggregate _ => exact isCode_append.2 ⟨isCode_ofList (by decide), isCode_toString i⟩

theorem isCode_returnType (ty : ReturnType) : IsCode (returnType ty) := by
  cases ty with
  | scalar ty => exact isCode_declared ty
  | void => exact isCode_ofList (by decide)
  | pointer => exact isCode_ofList (by decide)
  | cstring => exact isCode_ofList (by decide)

theorem isCode_readScalar (ty : ScalarType) {name : String} (hname : IsCode name) :
    ∀ line ∈ readScalar ty name, IsCode line := by
  cases ty with
  | int width signed =>
      simp only [readScalar, List.forall_mem_singleton, isCode_append, isCode_declared, hname,
        and_true]
      and_intros <;> exact isCode_ofList (by decide)
  | f32 | f64 =>
      simp only [readScalar, List.forall_mem_cons, isCode_append, hname, and_true]
      and_intros
      all_goals first | exact isCode_ofList (by decide) | exact List.forall_mem_nil _

theorem isCode_structLines (entry : Nat × Param) : ∀ line ∈ structLines entry, IsCode line := by
  obtain ⟨i, p⟩ := entry
  simp only [structLines]
  split
  · simp only [List.forall_mem_append, List.forall_mem_singleton, List.forall_mem_map,
      isCode_append, isCode_toString, isCode_toString_string, isCode_declared, and_true,
      Prod.forall]
    and_intros
    · exact isCode_ofList (by decide)
    · exact isCode_ofList (by decide)
    · intro f ty _
      and_intros <;> exact isCode_ofList (by decide)
    · exact isCode_ofList (by decide)
  · exact List.forall_mem_nil _

theorem isCode_readLines {entry : Nat × Param} (hname : IsCode entry.2.name) :
    ∀ line ∈ readLines entry, IsCode line := by
  obtain ⟨i, p⟩ := entry
  have hvariable : ∀ i : Nat, IsCode s!"a{i}" := fun i =>
    isCode_append.2 ⟨isCode_ofList (by decide), isCode_toString i⟩
  simp only [readLines, List.forall_mem_cons]
  refine ⟨?_, ?_⟩
  · simp only [isCode_append]
    exact ⟨⟨isCode_ofList (by decide), hname⟩, isCode_ofList (by decide)⟩
  split
  · exact isCode_readScalar _ (hvariable i)
  · simp only [List.forall_mem_cons, List.forall_mem_flatMap, List.forall_mem_append, Prod.forall,
      isCode_append, isCode_toString, isCode_toString_string, and_true]
    and_intros
    · exact isCode_ofList (by decide)
    · exact isCode_ofList (by decide)
    · exact isCode_ofList (by decide)
    · intro f ty _
      have hfield : IsCode s!"a{i}_f{f}" := by
        simp only [isCode_append, isCode_toString, isCode_toString_string, and_true]
        exact ⟨isCode_ofList (by decide), isCode_ofList (by decide)⟩
      refine ⟨isCode_readScalar ty hfield, ?_, List.forall_mem_nil _⟩
      and_intros <;> exact isCode_ofList (by decide)
  · simp only [List.forall_mem_cons, isCode_append, isCode_toString, isCode_toString_string,
      isCode_paramType, and_true]
    and_intros
    all_goals first | exact isCode_ofList (by decide) | exact List.forall_mem_nil _

theorem plain_preludeLines (guardBytes : Nat) :
    ∀ line ∈ preludeLines guardBytes, line.Plain := by
  simp only [preludeLines, prelude, List.take_succ_cons, List.take_zero, List.drop_succ_cons,
    List.drop_zero, List.map_cons, List.map_nil, List.forall_mem_append, List.forall_mem_cons,
    List.forall_mem_map, Line.Plain, isCode_append, isCode_toString, isCode_toString_string,
    and_true]
  and_intros
  all_goals first | exact isCode_ofList (by decide) | exact List.forall_mem_nil _

theorem isCode_callExpr {sig : Signature} (hname : IsCode sig.name) : IsCode (callExpr sig) := by
  have hargs : IsCode (commaList ((List.range sig.params.length).map fun i => s!"a{i}")) := by
    apply isCode_commaList
    simp only [List.forall_mem_map, isCode_append, isCode_toString, isCode_toString_string,
      and_true]
    intro i _
    exact isCode_ofList (by decide)
  simp only [callExpr, isCode_append, hname, hargs, true_and, and_true]
  exact ⟨isCode_ofList (by decide), isCode_ofList (by decide)⟩

theorem plain_rangeLines (entry : Nat × Param) : ∀ line ∈ rangeLines entry, line.Plain := by
  obtain ⟨i, p⟩ := entry
  simp only [rangeLines]
  split
  · simp only [List.forall_mem_cons, Line.Plain, isCode_append, isCode_toString,
      isCode_toString_string, and_true]
    and_intros
    all_goals first | exact isCode_ofList (by decide) | exact List.forall_mem_nil _
  · exact List.forall_mem_nil _

theorem plain_callLines {sig : Signature} (hname : IsCode sig.name) :
    ∀ line ∈ callLines sig, line.Plain := by
  have hcall := isCode_callExpr hname
  unfold callLines
  split
  case h_5 =>
    simp only [List.forall_mem_append, List.forall_mem_cons, List.forall_mem_flatMap, Line.Plain,
      isCode_append, hcall, and_true]
    and_intros
    all_goals first
      | exact isCode_ofList (by decide)
      | exact List.forall_mem_nil _
      | exact fun entry _ => plain_rangeLines entry
  all_goals
    simp only [List.forall_mem_cons, Line.Plain, isCode_append, isCode_declared, hcall, and_true]
    and_intros
    all_goals first | exact isCode_ofList (by decide) | exact List.forall_mem_nil _

theorem plain_memoryReport (entry : Nat × Param) : ∀ line ∈ memoryReport entry, line.Plain := by
  obtain ⟨i, p⟩ := entry
  simp only [memoryReport]
  split
  · simp only [List.forall_mem_cons, Line.Plain, isCode_append, isCode_toString,
      isCode_toString_string, and_true]
    and_intros
    all_goals first | exact isCode_ofList (by decide) | exact List.forall_mem_nil _
  · exact List.forall_mem_nil _

theorem isCode_declaration {sig : Signature} (hname : IsCode sig.name) :
    IsCode (declaration sig) := by
  have hparams : IsCode (commaList ((numbered sig).map fun (i, p) => paramType i p.ty)) := by
    apply isCode_commaList
    simp only [List.forall_mem_map]
    exact fun entry _ => isCode_paramType entry.1 entry.2.ty
  have hvoid : IsCode "void" := isCode_ofList (by decide)
  simp only [declaration, isCode_append, isCode_returnType, hname, and_true]
  refine ⟨⟨⟨⟨isCode_ofList (by decide), isCode_ofList (by decide)⟩, isCode_ofList (by decide)⟩, ?_⟩,
    isCode_ofList (by decide)⟩
  split
  · exact hvoid
  · exact hparams

theorem mem_numbered_iff {sig : Signature} {i : Nat} {p : Param} :
    (i, p) ∈ numbered sig ↔ sig.params[i]? = some p := by
  rw [numbered, List.mem_iff_getElem?]
  constructor
  · rintro ⟨j, hentry⟩
    obtain ⟨hindex, hp⟩ := List.getElem?_zip_eq_some.1 hentry
    obtain ⟨_, hindex⟩ := List.getElem?_eq_some_iff.1 hindex
    rw [List.getElem_range] at hindex
    subst hindex
    exact hp
  · intro hp
    have hi : i < sig.params.length := (List.getElem?_eq_some_iff.1 hp).1
    exact ⟨i, List.getElem?_zip_eq_some.2 ⟨List.getElem?_range hi, hp⟩⟩

/-- The names in a signature that can be run open no mark of a report. -/
theorem plain_sourceLines {sig : Signature} (hvalid : sig.validate = .ok ()) (guardBytes : Nat) :
    ∀ line ∈ sourceLines sig guardBytes, line.Plain := by
  obtain ⟨hidentifier, hidentifiers⟩ := Signature.isIdentifier_of_validate hvalid
  have hname := isCode_of_isIdentifier hidentifier
  have hnames : ∀ entry ∈ numbered sig, IsCode entry.2.name := fun entry hentry =>
    isCode_of_isIdentifier (hidentifiers _ (List.of_mem_zip hentry).2)
  simp only [sourceLines, headLines, List.forall_mem_append, List.forall_mem_map,
    List.forall_mem_flatMap, List.forall_mem_cons, Line.Plain, isCode_declaration hname, true_and]
  and_intros
  all_goals first
    | exact isCode_ofList (by decide)
    | exact List.forall_mem_nil _
    | exact plain_preludeLines guardBytes
    | exact plain_callLines hname
    | exact fun entry _ => isCode_structLines entry
    | exact fun entry hentry => isCode_readLines (hnames entry hentry)
    | exact fun entry _ => plain_memoryReport entry

theorem newline_notMem_text {line : Line} (hplain : line.Plain) : '\n' ∉ line.text.toList := by
  have hnot {text : String} (htext : IsCode text) : '\n' ∉ text.toList :=
    fun hmem => (htext _ hmem).2 rfl
  have hmark : '\n' ∉ "@@EQ ".toList := by decide
  cases line with
  | code text => exact hnot hplain
  | report front back =>
      simp only [Line.text, String.toList_append, List.mem_append, not_or]
      exact ⟨⟨hnot hplain.1, hmark⟩, hnot hplain.2⟩

theorem pieces_unlines {lines : List Line} (hplain : ∀ line ∈ lines, line.Plain) :
    pieces '\n' (unlines (lines.map Line.text)).toList =
      lines.map (fun line => line.text.toList) ++ [[]] := by
  induction lines with
  | nil => rfl
  | cons line lines ih =>
      have hline := newline_notMem_text (hplain line List.mem_cons_self)
      have hrest := ih fun other hother => hplain other (List.mem_cons_of_mem line hother)
      rw [List.map_cons, unlines_cons, String.toList_append, String.toList_append,
        List.append_assoc, List.map_cons, List.cons_append, ← hrest]
      exact pieces_append hline _

/-- The lines between two others, of which the first does not occur before and the last not in
between. -/
theorem between_source {sig : Signature} (hvalid : sig.validate = .ok ()) {guardBytes : Nat}
    {front middle back : List Line} {first last : Line}
    (hlines : sourceLines sig guardBytes = front ++ first :: (middle ++ last :: back))
    (hfront : ∀ line ∈ front, line.text ≠ first.text)
    (hmiddle : ∀ line ∈ middle, line.text ≠ last.text) :
    between first.text.toList last.text.toList (pieces '\n' (source sig guardBytes).toList) =
      middle.map fun line => line.text.toList := by
  have hplain := plain_sourceLines hvalid guardBytes
  have hnot {lines : List Line} {other : Line} (hlines : ∀ line ∈ lines, line.text ≠ other.text) :
      other.text.toList ∉ lines.map fun line => line.text.toList := by
    rintro hmem
    obtain ⟨line, hline, htext⟩ := List.mem_map.1 hmem
    exact hlines line hline (String.toList_inj.1 htext)
  rw [source_eq, pieces_unlines hplain, hlines, List.map_append, List.map_cons, List.map_append,
    List.map_cons, List.append_assoc, List.cons_append, List.append_assoc, List.cons_append]
  exact between_append (hnot hfront) (hnot hmiddle) _

end Plain

end Counterpart.Driver
