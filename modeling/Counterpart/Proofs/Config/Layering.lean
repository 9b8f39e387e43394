/-
The layers of a configuration.  What a document says is some of the fields, each read from the place
that names it; overrides come in front of the document and the defaults behind it.  A document must
be without fault by itself before anything overrides it.
-/
import Counterpart.Command.Settings
import Counterpart.Proofs.Corpus.Directory

namespace Counterpart

namespace Slot

variable {ν α β : Type}

/-- What a place says: what its node stands for, or nothing where there is no node. -/
inductive Tells (stands : ν → α → Prop) : Slot ν → Option α → Prop
  | given {node : ν} {x : α} (hstands : stands node x) : Tells stands (.given node) (some x)
  | absent : Tells stands .absent none
  | beyond : Tells stands .beyond none

/-- What a place says to a reader. -/
def Reads (read? : ν → Option α) : Slot ν → Option α → Prop :=
  Tells fun node x => read? node = some x

variable {slot : Slot ν}

theorem tells_given_iff {stands : ν → α → Prop} {node : ν} {said : Option α} :
    Tells stands (.given node) said ↔ ∃ x, stands node x ∧ said = some x := by
  constructor
  · rintro ⟨hstands⟩
    exact ⟨_, hstands, rfl⟩
  · rintro ⟨x, hstands, rfl⟩
    exact .given hstands

theorem tells_absent_iff {stands : ν → α → Prop} {said : Option α} :
    Tells stands .absent said ↔ said = none := by
  constructor
  · rintro ⟨⟩
    rfl
  · rintro rfl
    exact .absent

theorem tells_beyond_iff {stands : ν → α → Prop} {said : Option α} :
    Tells stands .beyond said ↔ said = none := by
  constructor
  · rintro ⟨⟩
    rfl
  · rintro rfl
    exact .beyond

/-- A value with a substitute is the meaning of what its place says, or else the substitute. -/
theorem withDefault_eq_some_iff_of_tells {stands : ν → α → Prop} {meaning : α → β}
    {read? : ν → Option β} {default x : β}
    (hread : ∀ node y, read? node = some y ↔ ∃ a, stands node a ∧ meaning a = y) :
    slot.withDefault default read? = some x ↔
      ∃ said, Tells stands slot said ∧ (said.map meaning).getD default = x := by
  cases slot with
  | given node => simp [withDefault, hread, tells_given_iff]
  | absent => simp [withDefault, tells_absent_iff]
  | beyond => simp [withDefault, tells_beyond_iff]

theorem withDefault_eq_some_iff {read? : ν → Option α} {default x : α} :
    slot.withDefault default read? = some x ↔
      ∃ said, slot.Reads read? said ∧ said.getD default = x := by
  have hread : ∀ node y, read? node = some y ↔ ∃ a, read? node = some a ∧ id a = y := by
    simp
  rw [withDefault_eq_some_iff_of_tells hread]
  simp only [Option.map_id_fun, id, Reads]

end Slot

/-- What is said of the limits of generation: some of them. -/
structure GeneratorLayer where
  midLen : Option Nat
  maxDimension : Option Nat
  maxStringLen : Option Nat
  maxBufferElems : Option Nat
  deriving DecidableEq, Repr

/-- What is said of a configuration: some of its fields. -/
structure ConfigLayer where
  compiler : Option String
  cflags : Option (List String)
  linkFlags : Option (List String)
  timeoutMs : Option Nat
  memoryLimitMb : Option Nat
  workers : Option Nat
  floatTolerance : Option Double
  floatSensitiveTolerance : Option Double
  guardBytes : Option Nat
  generator : Option GeneratorLayer
  deriving DecidableEq, Repr

namespace GeneratorLayer

/-- The limits that are said, and those of a base where nothing is. -/
def onto (said : GeneratorLayer) (base : GeneratorConfig) : GeneratorConfig where
  midLen := said.midLen.getD base.midLen
  maxDimension := said.maxDimension.getD base.maxDimension
  maxStringLen := said.maxStringLen.getD base.maxStringLen
  maxBufferElems := said.maxBufferElems.getD base.maxBufferElems

variable {ν : Type} [Document ν]

/-- Every limit is what its place says. -/
structure SaidIn (slot : String → Slot ν) (said : GeneratorLayer) : Prop where
  midLen : (slot "mid_len").Reads Document.nat? said.midLen
  maxDimension : (slot "max_dimension").Reads Document.nat? said.maxDimension
  maxStringLen : (slot "max_string_len").Reads Document.nat? said.maxStringLen
  maxBufferElems : (slot "max_buffer_elems").Reads Document.nat? said.maxBufferElems

/-- A node says some of the limits. -/
def SaidBy (node : ν) (said : GeneratorLayer) : Prop :=
  ∃ slot, Document.slots? ["mid_len", "max_dimension", "max_string_len", "max_buffer_elems"] node =
    some slot ∧ said.SaidIn slot

theorem ofNode?_eq_some_iff {base limits : GeneratorConfig} {node : ν} :
    GeneratorConfig.ofNode? base node = some limits ↔
      ∃ said : GeneratorLayer, said.SaidBy node ∧ said.onto base = limits := by
  simp only [GeneratorConfig.ofNode?, bind, Option.bind_eq_some_iff, Slot.withDefault_eq_some_iff,
    Option.some_inj]
  constructor
  · rintro ⟨slot, hslot, _, ⟨midLen, hmid, rfl⟩, _, ⟨maxDimension, hdimension, rfl⟩,
      _, ⟨maxStringLen, hstring, rfl⟩, _, ⟨maxBufferElems, hbuffer, rfl⟩, rfl⟩
    exact ⟨⟨midLen, maxDimension, maxStringLen, maxBufferElems⟩,
      ⟨slot, hslot, ⟨hmid, hdimension, hstring, hbuffer⟩⟩, rfl⟩
  · rintro ⟨said, ⟨slot, hslot, hsaid⟩, rfl⟩
    exact ⟨slot, hslot, _, ⟨_, hsaid.midLen, rfl⟩, _, ⟨_, hsaid.maxDimension, rfl⟩,
      _, ⟨_, hsaid.maxStringLen, rfl⟩, _, ⟨_, hsaid.maxBufferElems, rfl⟩, rfl⟩

end GeneratorLayer

namespace ConfigLayer

/-- The layer that says nothing. -/
def silent : ConfigLayer :=
  ⟨none, none, none, none, none, none, none, none, none, none⟩

variable {ν : Type} [Document ν]

/-- Every field is what its place says. -/
structure SaidIn (slot : String → Slot ν) (said : ConfigLayer) : Prop where
  compiler : (slot "compiler").Reads Document.text? said.compiler
  cflags : (slot "cflags").Reads (Document.list? Document.text?) said.cflags
  linkFlags : (slot "link_flags").Reads (Document.list? Document.text?) said.linkFlags
  timeoutMs : (slot "timeout_ms").Reads Document.nat? said.timeoutMs
  memoryLimitMb : (slot "memory_limit_mb").Reads Document.nat? said.memoryLimitMb
  workers : (slot "workers").Reads Document.nat? said.workers
  floatTolerance : (slot "float_tolerance").Reads Document.float? said.floatTolerance
  floatSensitiveTolerance :
    (slot "float_sensitive_tolerance").Reads Document.float? said.floatSensitiveTolerance
  guardBytes : (slot "guard_bytes").Reads Document.nat? said.guardBytes
  generator :
    (slot "generator").Tells (fun node limits => GeneratorLayer.SaidBy node limits) said.generator

/-- A node says some of the fields. -/
def SaidBy (node : ν) (said : ConfigLayer) : Prop :=
  ∃ slot, Document.slots?
    ["compiler", "cflags", "link_flags", "timeout_ms", "memory_limit_mb", "workers",
      "float_tolerance", "float_sensitive_tolerance", "guard_bytes", "generator"] node =
    some slot ∧ said.SaidIn slot

/-- A text says some of the fields, in the format that its path tells. -/
inductive SaidInText (yaml : DocumentReader) (path : String) (text : List Char)
    (said : ConfigLayer) : Prop
  | json {node : Json} (hpath : Path.isJson path = true) (hnode : Json.read? text = some node)
      (hsaid : said.SaidBy node)
  | yaml {node : yaml.Node} (hpath : Path.isJson path = false)
      (hnode : yaml.read? text = some node) (hsaid : said.SaidBy node)

end ConfigLayer

namespace Config

/-- The configuration of three layers.  A field is the one that overrides it, else the one that is
said, else that of the base. -/
def layered (overrides : ConfigOverrides) (said : ConfigLayer) (base : Config) : Config where
  compiler := (overrides.compiler.or said.compiler).getD base.compiler
  cflags := said.cflags.getD base.cflags
  linkFlags := said.linkFlags.getD base.linkFlags
  timeoutMs := (overrides.timeoutMs.or said.timeoutMs).getD base.timeoutMs
  memoryLimitMb := said.memoryLimitMb.getD base.memoryLimitMb
  workers := (overrides.workers.or said.workers).getD base.workers
  floatTolerance := said.floatTolerance.getD base.floatTolerance
  floatSensitiveTolerance := said.floatSensitiveTolerance.getD base.floatSensitiveTolerance
  guardBytes := said.guardBytes.getD base.guardBytes
  generator := (said.generator.map (·.onto base.generator)).getD base.generator

theorem apply_layered (overrides : ConfigOverrides) (said : ConfigLayer) (base : Config) :
    overrides.apply (layered .none said base) = layered overrides said base := by
  have hor {α : Type} (o s : Option α) (d : α) : o.getD (s.getD d) = (o.or s).getD d := by
    cases o <;> rfl
  simp only [ConfigOverrides.apply, ConfigOverrides.none, layered, Option.none_or, hor]

theorem layered_silent (base : Config) : layered .none .silent base = base :=
  rfl

variable {ν : Type} [Document ν] {yaml : DocumentReader} {base c : Config}

/-- What is read against a base is what is said over that base. -/
theorem ofNode?_eq_some_iff {node : ν} (hbase : base.generator = .default) :
    ofNode? base node = some c ↔
      ∃ said : ConfigLayer, said.SaidBy node ∧ layered .none said base = c := by
  simp only [ofNode?, bind, Option.bind_eq_some_iff, Slot.withDefault_eq_some_iff,
    Slot.withDefault_eq_some_iff_of_tells (fun _ _ => GeneratorLayer.ofNode?_eq_some_iff),
    Option.some_inj]
  constructor
  · rintro ⟨slot, hslot, _, ⟨compiler, hcompiler, rfl⟩, _, ⟨cflags, hcflags, rfl⟩,
      _, ⟨linkFlags, hlink, rfl⟩, _, ⟨timeoutMs, htimeout, rfl⟩, _, ⟨memoryLimitMb, hmemory, rfl⟩,
      _, ⟨workers, hworkers, rfl⟩, _, ⟨floatTolerance, hfloat, rfl⟩,
      _, ⟨floatSensitiveTolerance, hsensitive, rfl⟩, _, ⟨guardBytes, hguard, rfl⟩,
      _, ⟨generator, hgenerator, rfl⟩, rfl⟩
    refine ⟨⟨compiler, cflags, linkFlags, timeoutMs, memoryLimitMb, workers, floatTolerance,
      floatSensitiveTolerance, guardBytes, generator⟩, ⟨slot, hslot, ⟨hcompiler, hcflags, hlink,
      htimeout, hmemory, hworkers, hfloat, hsensitive, hguard, hgenerator⟩⟩, ?_⟩
    rw [layered, hbase]
    rfl
  · rintro ⟨said, ⟨slot, hslot, hsaid⟩, rfl⟩
    refine ⟨slot, hslot, _, ⟨_, hsaid.compiler, rfl⟩, _, ⟨_, hsaid.cflags, rfl⟩,
      _, ⟨_, hsaid.linkFlags, rfl⟩, _, ⟨_, hsaid.timeoutMs, rfl⟩,
      _, ⟨_, hsaid.memoryLimitMb, rfl⟩, _, ⟨_, hsaid.workers, rfl⟩,
      _, ⟨_, hsaid.floatTolerance, rfl⟩, _, ⟨_, hsaid.floatSensitiveTolerance, rfl⟩,
      _, ⟨_, hsaid.guardBytes, rfl⟩, _, ⟨_, hsaid.generator, rfl⟩, ?_⟩
    rw [layered, hbase]
    rfl

theorem read?_eq_some_iff {path : String} {text : List Char} (hbase : base.generator = .default) :
    read? yaml base path text = some c ↔
      ∃ said, ConfigLayer.SaidInText yaml path text said ∧ layered .none said base = c := by
  by_cases hpath : Path.isJson path = true
  · rw [read?, if_pos hpath, Option.bind_eq_some_iff]
    simp only [ofNode?_eq_some_iff hbase]
    constructor
    · rintro ⟨node, hnode, said, hsaid, hlayered⟩
      exact ⟨said, .json hpath hnode hsaid, hlayered⟩
    · rintro ⟨said, ⟨_, hnode, hsaid⟩ | ⟨hother, _, _⟩, hlayered⟩
      · exact ⟨_, hnode, said, hsaid, hlayered⟩
      · cases hpath.symm.trans hother
  · rw [read?, if_neg hpath, Option.bind_eq_some_iff]
    simp only [ofNode?_eq_some_iff hbase]
    constructor
    · rintro ⟨node, hnode, said, hsaid, hlayered⟩
      exact ⟨said, .yaml (Bool.eq_false_iff.2 hpath) hnode hsaid, hlayered⟩
    · rintro ⟨said, ⟨hother, _, _⟩ | ⟨_, hnode, hsaid⟩, hlayered⟩
      · exact absurd hother hpath
      · exact ⟨_, hnode, said, hsaid, hlayered⟩

/-- A file is loaded if it is text in its format and what it says is without fault. -/
theorem load_eq_ok_iff {path : String} {content : Option Bytes}
    (hbase : base.generator = .default) :
    load yaml base path content = .ok c ↔ ∃ text said, content.bind Text.utf8? = some text ∧
      ConfigLayer.SaidInText yaml path text said ∧ layered .none said base = c ∧
      c.validate = .ok () := by
  rw [load]
  cases content.bind Text.utf8? with
  | none => simp
  | some text =>
      constructor
      · intro hload
        cases hread : read? yaml base path text with
        | none =>
            simp only [hread] at hload
            cases hload
        | some read =>
            simp only [hread] at hload
            obtain ⟨_, hvalid, hsame⟩ := bind_eq_ok_iff.1 hload
            cases hsame
            obtain ⟨said, hsaid, hlayered⟩ := (read?_eq_some_iff hbase).1 hread
            exact ⟨text, said, rfl, hsaid, hlayered, hvalid⟩
      · rintro ⟨_, said, ⟨⟩, hsaid, hlayered, hvalid⟩
        have hread := (read?_eq_some_iff hbase).2 ⟨said, hsaid, hlayered⟩
        simp only [hread, hvalid]
        rfl

section

variable {overrides : ConfigOverrides}

theorem settle_none : settle yaml base none overrides =
    ((overrides.apply base).validate.mapError .settings).map fun _ => overrides.apply base := by
  simp only [settle, bind, Except.bind]
  cases (overrides.apply base).validate with
  | error fault => rfl
  | ok valid => rfl

/-- Overrides are taken if what they lead to is without fault. -/
theorem settle_none_eq_ok_iff : settle yaml base none overrides = .ok c ↔
    (overrides.apply base).validate = .ok () ∧ overrides.apply base = c := by
  rw [settle_none, map_eq_ok_iff]
  simp only [mapError_eq_ok_iff]
  constructor
  · rintro ⟨⟨⟩, hvalid, hc⟩
    exact ⟨hvalid, hc⟩
  · rintro ⟨hvalid, hc⟩
    exact ⟨(), hvalid, hc⟩

/-- A document is loaded as it is, and then overridden. -/
theorem settle_some_eq_ok_iff {path : String} {content : Option Bytes} :
    settle yaml base (some (path, content)) overrides = .ok c ↔
      ∃ loaded, load yaml base path content = .ok loaded ∧
        settle yaml loaded none overrides = .ok c := by
  have hsettle : settle yaml base (some (path, content)) overrides =
      (load yaml base path content).mapError (.config path) >>= fun loaded =>
        settle yaml loaded none overrides := rfl
  rw [hsettle, bind_eq_ok_iff]
  simp only [mapError_eq_ok_iff]

end

end Config

namespace World

/-- What the file at a path says of a configuration; nothing is said where no path is given. -/
inductive Tells (yaml : DocumentReader) (w : World) : Option String → ConfigLayer → Prop
  | nothing : Tells yaml w none .silent
  | file {path : String} {content : Bytes} {text : List Char} {said : ConfigLayer}
      (hread : w.files.read? w.directory path = some content)
      (htext : Text.utf8? content = some text) (hsaid : said.SaidInText yaml path text) :
      Tells yaml w (some path) said

/-- The configuration where nothing is said. -/
def defaults (w : World) : Config :=
  .default w.surroundings

variable {yaml : DocumentReader} {w : World} {path : Option String} {overrides : ConfigOverrides}
  {c : Config}

/-- What comes of loading the configuration of a command. -/
def configuration (yaml : DocumentReader) (w : World) (path : Option String)
    (overrides : ConfigOverrides) : Except CommandError Config :=
  Config.settle yaml w.defaults
    (path.map fun path => (path, w.files.read? w.directory path)) overrides

theorem run_loadConfig (yaml : DocumentReader) (w : World) (path : Option String)
    (overrides : ConfigOverrides) : (host.loadConfig yaml path overrides).run.run w =
      (configuration yaml w path overrides, w) := by
  cases path with
  | none => rfl
  | some path => rfl

/-- Loading succeeds exactly if the layers are read and no check fails. -/
theorem configuration_eq_ok_iff : configuration yaml w path overrides = .ok c ↔
    ∃ said, Tells yaml w path said ∧
      (path.isSome = true → (Config.layered .none said w.defaults).validate = .ok ()) ∧
      (Config.layered overrides said w.defaults).validate = .ok () ∧
      Config.layered overrides said w.defaults = c := by
  rw [configuration]
  cases path with
  | none =>
      rw [Option.map_none, Config.settle_none_eq_ok_iff, ← Config.layered_silent w.defaults,
        Config.apply_layered]
      constructor
      · rintro ⟨hvalid, hc⟩
        exact ⟨.silent, .nothing, nofun, hvalid, hc⟩
      · rintro ⟨_, ⟨⟩, _, hvalid, hc⟩
        exact ⟨hvalid, hc⟩
  | some path =>
      have hbase : w.defaults.generator = .default := rfl
      rw [Option.map_some, Config.settle_some_eq_ok_iff]
      simp only [Config.load_eq_ok_iff hbase, Config.settle_none_eq_ok_iff]
      constructor
      · rintro ⟨_, ⟨text, said, htext, hsaid, rfl, hown⟩, hvalid, hc⟩
        obtain ⟨content, hread, htext⟩ := Option.bind_eq_some_iff.1 htext
        rw [Config.apply_layered] at hvalid hc
        exact ⟨said, .file hread htext hsaid, fun _ => hown, hvalid, hc⟩
      · rintro ⟨said, ⟨⟩ | ⟨hread, htext, hsaid⟩, hown, hvalid, hc⟩
        rw [← Config.apply_layered] at hvalid hc
        exact ⟨_, ⟨_, said, Option.bind_eq_some_iff.2 ⟨_, hread, htext⟩, hsaid, rfl, hown rfl⟩,
          hvalid, hc⟩

/-- A command loads its configuration exactly if the file it names is read, what the file says is
without fault over the defaults, and so is that with the overrides in front of it; and then this is
the configuration, every field of it from the first layer that has one.  So it is whatever YAML is
taken to be.  The world stays as it is. -/
theorem loadConfig_layered (yaml : DocumentReader) (w : World) (path : Option String)
    (overrides : ConfigOverrides) :
    ∃ result, (host.loadConfig yaml path overrides).run.run w = (result, w) ∧
      ∀ c, result = .ok c ↔ ∃ said, Tells yaml w path said ∧
        (path.isSome = true → (Config.layered .none said w.defaults).validate = .ok ()) ∧
        (Config.layered overrides said w.defaults).validate = .ok () ∧
        Config.layered overrides said w.defaults = c :=
  ⟨configuration yaml w path overrides, run_loadConfig yaml w path overrides,
    fun _ => configuration_eq_ok_iff⟩

namespace Idle

/-- A configuration without workers. -/
def text : List Char :=
  "\x7b\"workers\":0\x7d".toList

/-- A world with that configuration in its root. -/
def world : World where
  files := ⟨[(["c.json"], .file (Text.utf8 text))]⟩
  directory := []
  surroundings := ⟨fun _ => none, 2⟩
  compilers := []
  printed := ""

/-- Two workers. -/
def twoWorkers : ConfigOverrides :=
  { ConfigOverrides.none with workers := some 2 }

def said : ConfigLayer :=
  { ConfigLayer.silent with workers := some 0 }

theorem utf8?_text : Text.utf8? (Text.utf8 text) = some text :=
  Text.utf8?_utf8 (by decide +kernel)

theorem tells_said : Tells Yaml.reader world (some "c.json") said := by
  have hread : world.files.read? world.directory "c.json" = some (Text.utf8 text) := by
    rfl
  have hnode : Json.read? text = some (.object [("workers", .int 0)]) := by
    rfl
  refine .file hread utf8?_text (.json (by decide +kernel) hnode ?_)
  exact ⟨_, rfl, ⟨.absent, .absent, .absent, .absent, .absent, .given rfl, .absent, .absent,
    .absent, .absent⟩⟩

theorem load_eq_error :
    Config.load Yaml.reader world.defaults "c.json" (some (Text.utf8 text)) =
      .error (.invalid "workers must be at least 1") := by
  rw [Config.load, Option.bind_some, utf8?_text]
  rfl

end Idle

open Idle in
/-- The overrides of a file that is at fault by itself come too late. -/
theorem loadConfig_overridden_too_late :
    ∃ said, Tells Yaml.reader world (some "c.json") said ∧
      (Config.layered twoWorkers said world.defaults).validate = .ok () ∧
      (Config.layered twoWorkers said world.defaults).workers = 2 ∧
      (host.loadConfig Yaml.reader (some "c.json") twoWorkers).run.run world =
        (.error (.config "c.json" (.invalid "workers must be at least 1")), world) := by
  have hrun : configuration Yaml.reader world (some "c.json") twoWorkers =
      (Config.load Yaml.reader world.defaults "c.json" (some (Text.utf8 text))).mapError
        (.config "c.json") >>= fun loaded => Config.settle Yaml.reader loaded none twoWorkers := by
    rfl
  refine ⟨said, tells_said, by rfl, by rfl, ?_⟩
  rw [run_loadConfig, hrun, load_eq_error]
  rfl

end World

end Counterpart
