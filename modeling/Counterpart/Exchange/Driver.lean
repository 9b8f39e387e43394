/-
The driver linked against each variant.  It reads one set of arguments, places every
object behind a pointer in front of a guard, calls the function once, and reports the
result and the memory behind mutable pointers.
-/
import Counterpart.Signature.Basic
import Counterpart.Text.Lines

namespace Counterpart.Driver

/-- The byte that fills a guard. -/
def guardByte : UInt8 := 0xA5

/-- The status with which a driver ends that cannot read its arguments. -/
def badInputStatus : Nat := 125

/-- The name of the file that holds the driver. -/
def fileName : String := "eq_driver.c"

/-- The lines every driver has, behind its three constants. -/
def prelude : List String :=
  [ "#include <stdint.h>",
    "#include <stdio.h>",
    "#include <stdlib.h>",
    "#include <string.h>",
    "",
    "static void eq_bad_input(void)",
    "\x7b",
    "    printf(\"\\n@@EQ BADINPUT\\n\");",
    "    fflush(stdout);",
    "    exit(EQ_BAD_INPUT_EXIT);",
    "\x7d",
    "",
    "static unsigned long long eq_read_word(void)",
    "\x7b",
    "    unsigned long long v;",
    "    if (scanf(\"%llx\", &v) != 1)",
    "        eq_bad_input();",
    "    return v;",
    "\x7d",
    "",
    "static unsigned char *eq_read_block(size_t *len_out)",
    "\x7b",
    "    unsigned long long present = eq_read_word();",
    "    size_t len, i;",
    "    unsigned char *buf;",
    "    *len_out = 0;",
    "    if (!present)",
    "        return NULL;",
    "    len = (size_t)eq_read_word();",
    "    buf = (unsigned char *)malloc(len + EQ_GUARD + 1);",
    "    if (!buf)",
    "        eq_bad_input();",
    "    for (i = 0; i < len; i++) \x7b",
    "        unsigned int b;",
    "        if (scanf(\"%2x\", &b) != 1)",
    "            eq_bad_input();",
    "        buf[i] = (unsigned char)b;",
    "    \x7d",
    "    memset(buf + len, EQ_GUARD_BYTE, EQ_GUARD);",
    "    *len_out = len;",
    "    return buf;",
    "\x7d",
    "",
    "static void eq_dump(const unsigned char *p, size_t n)",
    "\x7b",
    "    size_t i;",
    "    for (i = 0; i < n; i++)",
    "        printf(\"%02x\", p[i]);",
    "\x7d" ]

/-- Texts with a comma and a space between each two. -/
def commaList (texts : List String) : String :=
  String.intercalate ", " texts

/-- The C type of a parameter, by its position. -/
def paramType (index : Nat) : ValueType → String
  | .scalar ty => ty.declared
  | .buffer elem _ _ => elem.declared ++ " *"
  | .cstring _ => "char *"
  | .bytes _ _ => "void *"
  | .aggregate _ => s!"struct eq_agg_{index}"

/-- The C type of a result. -/
def returnType : ReturnType → String
  | .void => "void"
  | .scalar ty => ty.declared
  | .pointer => "void *"
  | .cstring => "char *"

/-- The parameters with their positions. -/
def numbered (sig : Signature) : List (Nat × Param) :=
  (List.range sig.params.length).zip sig.params

/-- The definition of the structure a parameter takes by value. -/
def structLines : Nat × Param → List String
  | (i, p) =>
      match p.ty with
      | .aggregate fields =>
          [s!"struct eq_agg_{i} \x7b"] ++
            ((List.range fields.length).zip fields).map
              (fun (f, ty) => "    " ++ ty.declared ++ s!" f{f};") ++
            ["\x7d;"]
      | _ => []

/-- Reads one scalar into a new variable. -/
def readScalar (ty : ScalarType) (name : String) : List String :=
  match ty with
  | .int _ _ =>
      ["    " ++ ty.declared ++ " " ++ name ++ " = (" ++ ty.declared ++ ")eq_read_word();"]
  | .f32 =>
      [ "    float " ++ name ++ ";",
        "    \x7b uint32_t bits = (uint32_t)eq_read_word(); memcpy(&" ++ name ++
          ", &bits, 4); \x7d" ]
  | .f64 =>
      [ "    double " ++ name ++ ";",
        "    \x7b uint64_t bits = (uint64_t)eq_read_word(); memcpy(&" ++ name ++
          ", &bits, 8); \x7d" ]

/-- Reads the argument of one parameter. -/
def readLines : Nat × Param → List String
  | (i, p) =>
      ("    /* " ++ p.name ++ " */") ::
        match p.ty with
        | .scalar ty => readScalar ty s!"a{i}"
        | .aggregate fields =>
            s!"    struct eq_agg_{i} a{i};" ::
              ((List.range fields.length).zip fields).flatMap fun (f, ty) =>
                readScalar ty s!"a{i}_f{f}" ++ [s!"    a{i}.f{f} = a{i}_f{f};"]
        | ty =>
            [ s!"    size_t a{i}_len;",
              s!"    unsigned char *a{i}_raw = eq_read_block(&a{i}_len);",
              "    " ++ paramType i ty ++ s!" a{i} = (" ++ paramType i ty ++ s!")a{i}_raw;" ]

/-- The test whether the result points into the object behind a parameter, and the
report if it does. -/
def rangeTest : Nat × Param → String
  | (i, p) =>
      if p.ty.isPointer then
        s!" else if (a{i}_raw != NULL && (uintptr_t)r >= (uintptr_t)a{i}_raw && " ++
          s!"(uintptr_t)r <= (uintptr_t)a{i}_raw + a{i}_len + EQ_GUARD) \x7b\n" ++
          s!"        printf(\"\\n@@EQ RET P %d %llu\\n\", {i}, " ++
          s!"(unsigned long long)((uintptr_t)r - (uintptr_t)a{i}_raw));\n    \x7d"
      else ""

/-- Calls the function and reports its result. -/
def callText (sig : Signature) : String :=
  let args := (List.range sig.params.length).map fun i => s!"a{i}"
  let call := sig.name ++ "(" ++ commaList args ++ ")"
  match sig.ret with
  | .void => "    " ++ call ++ ";\n    printf(\"\\n@@EQ RET V\\n\");\n"
  | .scalar (.int width signed) =>
      "    " ++ (ScalarType.int width signed).declared ++ " r = " ++ call ++ ";\n" ++
        "    printf(\"\\n@@EQ RET I %llx\\n\", (unsigned long long)(" ++
        (ScalarType.int width false).declared ++ ")r);\n"
  | .scalar .f32 =>
      "    float r = " ++ call ++ ";\n" ++
        "    \x7b uint32_t bits; memcpy(&bits, &r, 4); " ++
        "printf(\"\\n@@EQ RET F %llx\\n\", (unsigned long long)bits); \x7d\n"
  | .scalar .f64 =>
      "    double r = " ++ call ++ ";\n" ++
        "    \x7b uint64_t bits; memcpy(&bits, &r, 8); " ++
        "printf(\"\\n@@EQ RET F %llx\\n\", (unsigned long long)bits); \x7d\n"
  | .pointer =>
      "    void *r = " ++ call ++ ";\n" ++
        "    if (r == NULL) \x7b\n        printf(\"\\n@@EQ RET P NULL\\n\");\n    \x7d" ++
        String.join ((numbered sig).map rangeTest) ++
        " else \x7b\n        printf(\"\\n@@EQ RET P FOREIGN\\n\");\n    \x7d\n"
  | .cstring =>
      "    char *r = " ++ call ++ ";\n" ++
        "    if (r == NULL) \x7b\n        printf(\"\\n@@EQ RET S NULL\\n\");\n" ++
        "    \x7d else \x7b\n        size_t n = strlen(r);\n" ++
        "        printf(\"\\n@@EQ RET S %llu \", (unsigned long long)n);\n" ++
        "        eq_dump((const unsigned char *)r, n);\n" ++
        "        printf(\"\\n\");\n    \x7d\n"

/-- Reports the memory behind a mutable pointer. -/
def memoryLines : Nat × Param → List String
  | (i, p) =>
      if p.ty.isMutablePointer then
        [ s!"    if (a{i}_raw != NULL) \x7b",
          s!"        printf(\"@@EQ MEM {i} %llu \", (unsigned long long)(a{i}_len + EQ_GUARD));",
          s!"        eq_dump(a{i}_raw, a{i}_len + EQ_GUARD);",
          "        printf(\"\\n\");",
          "    \x7d" ]
      else []

/-- Lines with a line feed behind each. -/
def unlines (lines : List String) : String :=
  String.join (lines.map (· ++ "\n"))

/-- The declaration of the function. -/
def declaration (sig : Signature) : String :=
  let params := (numbered sig).map fun (i, p) => paramType i p.ty
  "extern " ++ returnType sig.ret ++ " " ++ sig.name ++ "(" ++
    (if params.isEmpty then "void" else commaList params) ++ ");"

/-- The text of the driver of a signature, with guards of the given size. -/
def source (sig : Signature) (guardBytes : Nat) : String :=
  unlines
    [ s!"#define EQ_GUARD {guardBytes}",
      "#define EQ_GUARD_BYTE 0xA5",
      s!"#define EQ_BAD_INPUT_EXIT {badInputStatus}" ] ++
    unlines prelude ++ "\n" ++
    unlines ((numbered sig).flatMap structLines) ++
    unlines [declaration sig, "", "int main(void)", "\x7b"] ++
    unlines ((numbered sig).flatMap readLines) ++
    unlines ["    fflush(stdout);"] ++
    callText sig ++
    unlines ((numbered sig).flatMap memoryLines) ++
    unlines ["    printf(\"@@EQ END\\n\");", "    fflush(stdout);", "    return 0;", "\x7d"]

end Counterpart.Driver
