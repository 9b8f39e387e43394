/-
Library functions as recompiled sources name them, with the symbols they are bound to.
-/

namespace Counterpart

/-- A library function under the name a recompiled source calls it by. -/
structure LibraryFunction where
  name : String
  symbol : String
  result : String
  params : String
  deriving DecidableEq, Repr

namespace LibraryFunction

/-- The functions that are bound on every platform. -/
def roster : List LibraryFunction :=
  [ ⟨"_printf", "printf", "int", "const char *, ..."⟩,
    ⟨"_fprintf", "fprintf", "int", "void *, const char *, ..."⟩,
    ⟨"_sprintf", "sprintf", "int", "char *, const char *, ..."⟩,
    ⟨"_snprintf", "snprintf", "int", "char *, unsigned long, const char *, ..."⟩,
    ⟨"_puts", "puts", "int", "const char *"⟩,
    ⟨"_putchar", "putchar", "int", "int"⟩,
    ⟨"_malloc", "malloc", "void *", "unsigned long"⟩,
    ⟨"_calloc", "calloc", "void *", "unsigned long, unsigned long"⟩,
    ⟨"_realloc", "realloc", "void *", "void *, unsigned long"⟩,
    ⟨"_free", "free", "void", "void *"⟩,
    ⟨"_strlen", "strlen", "unsigned long", "const char *"⟩,
    ⟨"_strcpy", "strcpy", "char *", "char *, const char *"⟩,
    ⟨"_strncpy", "strncpy", "char *", "char *, const char *, unsigned long"⟩,
    ⟨"_strcat", "strcat", "char *", "char *, const char *"⟩,
    ⟨"_strcmp", "strcmp", "int", "const char *, const char *"⟩,
    ⟨"_strncmp", "strncmp", "int", "const char *, const char *, unsigned long"⟩,
    ⟨"_strchr", "strchr", "char *", "const char *, int"⟩,
    ⟨"_memcpy", "memcpy", "void *", "void *, const void *, unsigned long"⟩,
    ⟨"_memset", "memset", "void *", "void *, int, unsigned long"⟩,
    ⟨"_memcmp", "memcmp", "int", "const void *, const void *, unsigned long"⟩,
    ⟨"_memmove", "memmove", "void *", "void *, const void *, unsigned long"⟩,
    ⟨"_exit", "exit", "void", "int"⟩,
    ⟨"___stack_chk_fail", "__stack_chk_fail", "void", "void"⟩,
    ⟨"_atoi", "atoi", "int", "const char *"⟩,
    ⟨"_strtol", "strtol", "long", "const char *, char **, int"⟩,
    ⟨"_strtoul", "strtoul", "unsigned long", "const char *, char **, int"⟩,
    ⟨"_strtod", "strtod", "double", "const char *, char **"⟩,
    ⟨"_abs", "abs", "int", "int"⟩,
    ⟨"_labs", "labs", "long", "long"⟩,
    ⟨"_sqrt", "sqrt", "double", "double"⟩,
    ⟨"_pow", "pow", "double", "double, double"⟩,
    ⟨"_fabs", "fabs", "double", "double"⟩,
    ⟨"_floor", "floor", "double", "double"⟩,
    ⟨"_log", "log", "double", "double"⟩,
    ⟨"_exp", "exp", "double", "double"⟩,
    ⟨"_qsort", "qsort", "void",
      "void *, unsigned long, unsigned long, int (*)(const void *, const void *)"⟩,
    ⟨"_bsearch", "bsearch", "void *",
      "const void *, const void *, unsigned long, unsigned long, " ++
        "int (*)(const void *, const void *)"⟩,
    ⟨"_rand", "rand", "int", "void"⟩,
    ⟨"_srand", "srand", "void", "unsigned int"⟩,
    ⟨"_fopen", "fopen", "void *", "const char *, const char *"⟩,
    ⟨"_fclose", "fclose", "int", "void *"⟩,
    ⟨"_fread", "fread", "unsigned long", "void *, unsigned long, unsigned long, void *"⟩,
    ⟨"_fwrite", "fwrite", "unsigned long", "const void *, unsigned long, unsigned long, void *"⟩ ]

/-- The declaration that binds the name to its symbol. -/
def declaration (f : LibraryFunction) : String :=
  f.result ++ " " ++ f.name ++ "(" ++ f.params ++ ") __asm__(EQ_SYM(\"" ++ f.symbol ++ "\"));"

end LibraryFunction

end Counterpart
