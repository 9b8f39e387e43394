/-
The header that is included in front of every recompiled source.  It includes nothing
itself, so it stands beside whatever the source includes.
-/
import Counterpart.Header.Definition
import Counterpart.Header.Library
import Counterpart.Scalar.Vocabulary

namespace Counterpart.Header

/-- The name of the file that holds the header. -/
def fileName : String := "recomp.h"

/-- The lines in front of the type definitions. -/
def opening : List String :=
  [ "/* recomp.h: compatibility layer for recompiling decompiler output. */",
    "#ifndef DECOMP_EQUIV_RECOMP_H",
    "#define DECOMP_EQUIV_RECOMP_H",
    "",
    "#if defined(__clang__)",
    "#pragma clang diagnostic ignored \"-Weverything\"",
    "#elif defined(__GNUC__)",
    "#pragma GCC diagnostic ignored \"-Wall\"",
    "#pragma GCC diagnostic ignored \"-Wextra\"",
    "#pragma GCC diagnostic ignored \"-Wimplicit-function-declaration\"",
    "#pragma GCC diagnostic ignored \"-Wint-conversion\"",
    "#pragma GCC diagnostic ignored \"-Wincompatible-pointer-types\"",
    "#pragma GCC diagnostic ignored \"-Wbuiltin-declaration-mismatch\"",
    "#pragma GCC diagnostic ignored \"-Wreturn-type\"",
    "#endif",
    "",
    "/* Sized and placeholder types. */" ]

/-- The definition of a type name. -/
def typeLine (t : TypeName) : String :=
  "typedef " ++ t.definition ++ " " ++ t.name ++ ";"

/-- The check that a type has its size. -/
def sizeLine (t : TypeName) : String :=
  "_Static_assert(sizeof(" ++ t.name ++ s!") == {t.size}, \"" ++ t.name ++
    s!" must be {t.size} bytes\");"

/-- The names of truth values and of the null pointer. -/
def constants : List String :=
  [ "", "#ifndef true", "#define true 1", "#endif", "#ifndef false", "#define false 0",
    "#endif", "#ifndef NULL", "#define NULL ((void *)0)", "#endif", "" ]

/-- The widening of a whole word, where there is a wider type, and the way symbols are
named. -/
def symbols : List String :=
  [ "#ifdef __SIZEOF_INT128__",
    "#define ZEXT816(a) ((unsigned __int128)(uint8)(a))",
    "#endif",
    "",
    "/* libc under decompiler names, bound to the real symbols. */",
    "#define EQ_STR2(x) #x",
    "#define EQ_STR(x) EQ_STR2(x)",
    "#ifdef __USER_LABEL_PREFIX__",
    "#define EQ_SYM(name) EQ_STR(__USER_LABEL_PREFIX__) name",
    "#else",
    "#define EQ_SYM(name) name",
    "#endif" ]

/-- The functions that differ between platforms. -/
def closing : List String :=
  [ "",
    "#if defined(__APPLE__)",
    "void __assert_rtn(const char *, const char *, int, const char *);",
    "int ___maskrune(int, unsigned long) __asm__(EQ_SYM(\"__maskrune\"));",
    "#else",
    "void abort(void);",
    "static __attribute__((unused)) void __assert_rtn(const char *fn, const char *file, " ++
      "int line, const char *expr)",
    "\x7b",
    "    (void)fn;",
    "    (void)file;",
    "    (void)line;",
    "    (void)expr;",
    "    abort();",
    "\x7d",
    "#endif",
    "",
    "#endif /* DECOMP_EQUIV_RECOMP_H */" ]

/-- The lines of the header. -/
def lines : List String :=
  opening ++ TypeName.all.map typeLine ++ [""] ++ TypeName.all.map sizeLine ++ constants ++
    ["/* Byte concatenation. */"] ++ concats.map (·.line) ++
    ["", "/* Byte extraction. */"] ++ extracts.map (·.line) ++
    ["", "/* Zero and sign extension. */"] ++ extensions.map (·.line) ++
    symbols ++ LibraryFunction.roster.map (·.declaration) ++ closing

/-- The header. -/
def text : String :=
  String.join (lines.map (· ++ "\n"))

end Counterpart.Header
