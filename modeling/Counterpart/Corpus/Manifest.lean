/-
Manifests.  A manifest lists the cases of a corpus with their types as texts; a corpus is
loaded if every case of its manifest is sound, and the first fault is reported.
-/
import Counterpart.Corpus.Registry
import Counterpart.Json.Read
import Counterpart.Record.Basic
import Counterpart.Text.Utf8

namespace Counterpart

/-- A parameter as a manifest gives it. -/
structure ManifestParam where
  name : String
  type : String
  range : Option ValueRange
  nullable : Bool
  ignore : List ByteRange

/-- A case as a manifest gives it. -/
structure ManifestCase where
  name : String
  source : String
  category : Category
  returns : String
  params : List ManifestParam
  tags : List String
  explicit : List (List ExplicitValue)

namespace ManifestParam

variable {ν : Type} [Document ν]

/-- A range as a list of its two ends. -/
def range? (node : ν) : Option ValueRange := do
  let [min, max] ← Document.list? Document.int? node | none
  some ⟨min, max⟩

/-- The parameter a node holds. -/
def ofNode? (node : ν) : Option ManifestParam := do
  let slot ← Document.slots? ["name", "type", "range", "nullable", "ignore"] node
  let name ← (slot "name").required Document.text?
  let type ← (slot "type").required Document.text?
  let range ← (slot "range").optionalOrAbsent range?
  let nullable ← (slot "nullable").withDefault false Document.bool?
  let ignore ← (slot "ignore").withDefault [] (Document.list? ByteRange.ofNode?)
  some ⟨name, type, range, nullable, ignore⟩

/-- The parameter, once its type is read. -/
def build (case : String) (p : ManifestParam) : Except CorpusError Param :=
  match ValueType.read p.type.toList with
  | .error fault => .error (.invalidType case p.name fault)
  | .ok ty => .ok ⟨p.name, ty, p.range, p.nullable, p.ignore⟩

end ManifestParam

namespace ManifestCase

variable {ν : Type} [Document ν]

/-- The case a node holds. -/
def ofNode? (node : ν) : Option ManifestCase := do
  let slot ← Document.slots?
    ["name", "source", "category", "returns", "params", "tags", "explicit"] node
  let name ← (slot "name").required Document.text?
  let source ← (slot "source").required Document.text?
  let category ← (slot "category").required Category.ofNode?
  let returns ← (slot "returns").withDefault "void" Document.text?
  let params ← (slot "params").withDefault [] (Document.list? ManifestParam.ofNode?)
  let tags ← (slot "tags").withDefault [] (Document.list? Document.text?)
  let explicit ← (slot "explicit").withDefault []
    (Document.list? (Document.list? ExplicitValue.ofNode?))
  some ⟨name, source, category, returns, params, tags, explicit⟩

/-- What stands for the name of a parameter in a message about the result type. -/
def returnLabel : String := "<return>"

/-- The case, once its types are read: that of the result first, then those of the
parameters in order. -/
def build (raw : ManifestCase) : Except CorpusError ReferenceCase := do
  let ret ← match ReturnType.read raw.returns.toList with
    | .error fault => .error (.invalidType raw.name returnLabel fault)
    | .ok ret => .ok ret
  let params ← raw.params.mapM (ManifestParam.build raw.name)
  .ok ⟨⟨raw.name, params, ret⟩, raw.category, sortNames raw.tags, raw.source, raw.explicit⟩

end ManifestCase

namespace Manifest

/-- The cases of the manifest a node holds. -/
def ofNode? {ν : Type} [Document ν] (node : ν) : Option (List ManifestCase) := do
  let slot ← Document.slots? ["cases"] node
  (slot "cases").withDefault [] (Document.list? ManifestCase.ofNode?)

/-- The cases of a manifest, whose path says whether it is written as JSON or as YAML. -/
def read? (yaml : DocumentReader) (path : String) (text : List Char) :
    Option (List ManifestCase) :=
  if Path.isJson path then (Json.read? text).bind ofNode? else (yaml.read? text).bind ofNode?

/-- The path of the manifest in a directory. -/
def find? (isFile : String → Bool) (dir : String) : Option String :=
  (manifestNames.map (Path.join dir)).find? isFile

/-- Registers further cases, whose sources must be there. -/
def registerAll (isFile : String → Bool) (dir : String) :
    Registry → List ManifestCase → Except CorpusError Registry
  | registry, [] => .ok registry
  | registry, raw :: rest => do
      let case ← raw.build
      let source := Path.join dir case.source
      if !isFile source then .error (.missingSource case.name source)
      let registry ← registry.register case
      registerAll isFile dir registry rest

/-- The cases of a manifest, from the content of its file. -/
def parse (yaml : DocumentReader) (path : String) (content : Bytes) :
    Except CorpusError (List ManifestCase) :=
  match Text.utf8? content with
  | none => .error (.io path)
  | some text =>
      match read? yaml path text with
      | none => .error (.manifest path)
      | some cases => .ok cases

/-- The registry of a corpus, from the content of its manifest. -/
def load (yaml : DocumentReader) (isFile : String → Bool) (dir path : String) (content : Bytes) :
    Except CorpusError Registry :=
  (parse yaml path content).bind (registerAll isFile dir .empty)

end Manifest

end Counterpart
