/-
The configuration of a run.  Every field has a default, a document replaces the fields it
names, and overrides replace some of them again.
-/
import Counterpart.Document
import Counterpart.Generate.Basic
import Counterpart.Json.Read
import Counterpart.Path
import Counterpart.Text.Blank
import Counterpart.Text.Utf8

namespace Counterpart

/-- How a corpus is compiled, run and compared. -/
structure Config where
  compiler : String
  cflags : List String
  linkFlags : List String
  /-- The time limit of one execution. -/
  timeoutMs : Nat
  /-- The memory limit of one execution, none if it is zero. -/
  memoryLimitMb : Nat
  workers : Nat
  /-- The relative tolerance for floating-point results. -/
  floatTolerance : Double
  /-- The tolerance for cases that are marked as sensitive. -/
  floatSensitiveTolerance : Double
  /-- The number of guard bytes behind every object. -/
  guardBytes : Nat
  generator : GeneratorConfig
  deriving DecidableEq, Repr

/-- What the machine contributes to the defaults. -/
structure Surroundings where
  /-- The value of an environment variable. -/
  environment? : String → Option String
  processors : Nat

/-- Why there is no configuration. -/
inductive ConfigError where
  /-- The document cannot be read. -/
  | io (path : String)
  /-- The document does not have the form of a configuration. -/
  | parse (path : String)
  | invalid (reason : String)
  deriving DecidableEq, Repr

/-- The sentence shown for a configuration error. -/
def ConfigError.message : ConfigError → String
  | .io path => "failed to read config " ++ path
  | .parse path => "failed to parse config " ++ path
  | .invalid reason => "invalid config: " ++ reason

namespace GeneratorConfig

/-- The limits in which a node replaces what it names. -/
def ofNode? {ν : Type} [Document ν] (base : GeneratorConfig) (node : ν) :
    Option GeneratorConfig := do
  let slot ← Document.slots? ["mid_len", "max_dimension", "max_string_len", "max_buffer_elems"] node
  let midLen ← (slot "mid_len").withDefault base.midLen Document.nat?
  let maxDimension ← (slot "max_dimension").withDefault base.maxDimension Document.nat?
  let maxStringLen ← (slot "max_string_len").withDefault base.maxStringLen Document.nat?
  let maxBufferElems ← (slot "max_buffer_elems").withDefault base.maxBufferElems Document.nat?
  some ⟨midLen, maxDimension, maxStringLen, maxBufferElems⟩

end GeneratorConfig

namespace Config

/-- The environment variables that name the compiler, in order. -/
def compilerVariables : List String := ["DECOMP_EQUIV_CC", "CC"]

/-- Whether a text holds nothing but blanks. -/
def isBlankText (s : String) : Bool :=
  s.toList.all Text.isBlank

/-- The compiler where nothing else is said: the first variable that is set names it,
unless it is blank. -/
def defaultCompiler (environment? : String → Option String) : String :=
  ((compilerVariables.findSome? environment?).filter (!isBlankText ·)).getD "cc"

/-- The configuration where nothing else is said. -/
def default (around : Surroundings) : Config :=
  { compiler := defaultCompiler around.environment?
    cflags := ["-std=gnu11", "-O0"]
    linkFlags := ["-lm"]
    timeoutMs := 2000
    memoryLimitMb := 256
    workers := around.processors
    floatTolerance := Double.zero
    floatSensitiveTolerance := Double.ofDecimal false 1 (-6)
    guardBytes := 16
    generator := .default }

/-- The configuration in which a node replaces what it names. -/
def ofNode? {ν : Type} [Document ν] (base : Config) (node : ν) : Option Config := do
  let slot ← Document.slots?
    ["compiler", "cflags", "link_flags", "timeout_ms", "memory_limit_mb", "workers",
      "float_tolerance", "float_sensitive_tolerance", "guard_bytes", "generator"] node
  let compiler ← (slot "compiler").withDefault base.compiler Document.text?
  let cflags ← (slot "cflags").withDefault base.cflags (Document.list? Document.text?)
  let linkFlags ← (slot "link_flags").withDefault base.linkFlags (Document.list? Document.text?)
  let timeoutMs ← (slot "timeout_ms").withDefault base.timeoutMs Document.nat?
  let memoryLimitMb ← (slot "memory_limit_mb").withDefault base.memoryLimitMb Document.nat?
  let workers ← (slot "workers").withDefault base.workers Document.nat?
  let floatTolerance ← (slot "float_tolerance").withDefault base.floatTolerance Document.float?
  let floatSensitiveTolerance ← (slot "float_sensitive_tolerance").withDefault
    base.floatSensitiveTolerance Document.float?
  let guardBytes ← (slot "guard_bytes").withDefault base.guardBytes Document.nat?
  let generator ← (slot "generator").withDefault base.generator
    (GeneratorConfig.ofNode? .default)
  some ⟨compiler, cflags, linkFlags, timeoutMs, memoryLimitMb, workers, floatTolerance,
    floatSensitiveTolerance, guardBytes, generator⟩

/-- The first fault of a configuration. -/
def fault? (c : Config) : Option String :=
  if isBlankText c.compiler then some "compiler must not be empty"
  else if c.timeoutMs = 0 then some "timeout_ms must be positive"
  else if c.workers = 0 then some "workers must be at least 1"
  else if !(Double.zero.le c.floatTolerance && Double.zero.le c.floatSensitiveTolerance) then
    some "float tolerances must be non-negative"
  else if c.generator.maxBufferElems = 0 then some "generator.max_buffer_elems must be positive"
  else none

/-- Passes the configurations without fault. -/
def validate (c : Config) : Except ConfigError Unit :=
  match c.fault? with
  | some reason => .error (.invalid reason)
  | none => .ok ()

theorem isBlankText_defaultCompiler (environment? : String → Option String) :
    isBlankText (defaultCompiler environment?) = false := by
  unfold defaultCompiler
  cases hname : (compilerVariables.findSome? environment?).filter (!isBlankText ·) with
  | none => rfl
  | some name => simpa using (Option.filter_eq_some_iff.1 hname).2

/-- The defaults pass their own check wherever there is a processor. -/
theorem validate_default {around : Surroundings} (hprocessors : 0 < around.processors) :
    (default around).validate = .ok () := by
  have hcompiler := isBlankText_defaultCompiler around.environment?
  have hworkers : around.processors ≠ 0 := Nat.ne_of_gt hprocessors
  have htolerances :
      (Double.zero.le .zero && Double.zero.le (.ofDecimal false 1 (-6))) = true := by decide
  have hfault : (default around).fault? = none := by
    simp [fault?, default, GeneratorConfig.default, hcompiler, hworkers, htolerances]
  rw [validate, hfault]
/-- The configuration of a document, whose path says whether it is written as JSON or as
YAML. -/
def read? (yaml : DocumentReader) (base : Config) (path : String) (text : List Char) :
    Option Config :=
  if Path.isJson path then (Json.read? text).bind (ofNode? base)
  else (yaml.read? text).bind (ofNode? base)

/-- The configuration in a file, from the content of the file. -/
def load (yaml : DocumentReader) (base : Config) (path : String) (content : Option Bytes) :
    Except ConfigError Config :=
  match content.bind Text.utf8? with
  | none => .error (.io path)
  | some text =>
      match read? yaml base path text with
      | none => .error (.parse path)
      | some c => do
          c.validate
          .ok c

/-- The time limit in nanoseconds. -/
def timeoutNanos (c : Config) : Nat := c.timeoutMs * 10 ^ 6

/-- The memory limit in bytes, as far as it can be expressed. -/
def memoryLimitBytes (c : Config) : Option Nat :=
  if c.memoryLimitMb = 0 then none else some (min (c.memoryLimitMb * 2 ^ 20) (2 ^ 64 - 1))

/-- The tolerance for the results of a case. -/
def toleranceFor (c : Config) (case : ReferenceCase) : Double :=
  if case.isFloatSensitive then c.floatSensitiveTolerance else c.floatTolerance

end Config

/-- Fields that take precedence over those of the configuration. -/
structure ConfigOverrides where
  workers : Option Nat
  timeoutMs : Option Nat
  compiler : Option String
  deriving DecidableEq, Repr

namespace ConfigOverrides

/-- No field at all. -/
def none : ConfigOverrides := ⟨.none, .none, .none⟩

/-- The configuration with the fields that are given. -/
def apply (o : ConfigOverrides) (c : Config) : Config :=
  { c with
    workers := o.workers.getD c.workers
    timeoutMs := o.timeoutMs.getD c.timeoutMs
    compiler := o.compiler.getD c.compiler }

end ConfigOverrides

end Counterpart
