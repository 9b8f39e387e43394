/-
Loading the corpus in a directory.  The manifest is looked for under its names, and the sources of
its cases are looked up before any of them is built; since looking changes nothing, this comes to
the same as looking up each source when its case is taken.
-/
import Counterpart.Command.Settings
import Counterpart.Proofs.Corpus.Loading
import Counterpart.Proofs.Text.Utf8
import Counterpart.Rehearsal.World
import Counterpart.Yaml.Plain

namespace Counterpart

section Lookup

variable {p q : String → Bool} {paths : List String}

theorem contains_filter {path : String} (hpath : path ∈ paths) :
    (paths.filter p).contains path = p path := by
  rw [Bool.eq_iff_iff, List.contains_iff_mem, List.mem_filter]
  exact and_iff_right hpath

theorem find?_congr (hsame : ∀ path ∈ paths, p path = q path) : paths.find? p = paths.find? q := by
  induction paths with
  | nil => rfl
  | cons path paths ih =>
      obtain ⟨hfirst, hrest⟩ := List.forall_mem_cons.1 hsame
      rw [List.find?_cons, List.find?_cons, hfirst, ih hrest]

end Lookup

namespace World

variable {w w' : World} {dir path : String} {content : Bytes}

section

variable {α β : Type} {first : CommandM (StateM World) α} {next : α → CommandM (StateM World) β}

/-- A result goes to what follows, in the world it leaves. -/
theorem run_bind_of_ok {a : α} (hfirst : first.run.run w = (.ok a, w')) :
    (first >>= next).run.run w = (next a).run.run w' := by
  rw [ExceptT.run_bind, StateT.run_bind, hfirst]
  rfl

/-- After an error nothing follows. -/
theorem run_bind_of_error {e : CommandError} (hfirst : first.run.run w = (.error e, w')) :
    (first >>= next).run.run w = (.error e, w') := by
  rw [ExceptT.run_bind, StateT.run_bind, hfirst]
  rfl

/-- An answer goes to what follows, in the world it leaves. -/
theorem run_lift_bind {look : StateM World α} {a : α} (hlook : look.run w = (a, w')) :
    ((liftM look : CommandM (StateM World) α) >>= next).run.run w = (next a).run.run w' := by
  apply run_bind_of_ok
  change (Except.ok (look.run w).1, (look.run w).2) = _
  rw [hlook]

end

theorem run_present (w : World) (paths : List String) :
    (host.present paths).run w = (paths.filter (w.files.isFile w.directory), w) := by
  have hfrom : ∀ kept : List String, (List.filterAuxM host.isFile paths kept).run w =
      ((paths.filter (w.files.isFile w.directory)).reverse ++ kept, w) := by
    induction paths with
    | nil => exact fun kept => rfl
    | cons path paths ih =>
        intro kept
        rw [List.filterAuxM, StateT.run_bind]
        change (List.filterAuxM host.isFile paths
          (cond (w.files.isFile w.directory path) (path :: kept) kept)).run w = _
        rw [ih]
        cases hfile : w.files.isFile w.directory path with
        | false => simp [hfile]
        | true => simp [hfile]
  rw [Host.present, List.filterM, StateT.run_bind, hfrom, List.append_nil]
  change ((List.filter _ paths).reverse.reverse, w) = _
  rw [List.reverse_reverse]

/-- A world that has a manifest loads it as its files are, and stays as it is. -/
theorem run_loadRegistry (yaml : DocumentReader)
    (hfind : Manifest.find? (w.files.isFile w.directory) dir = some path)
    (hread : w.files.read? w.directory path = some content) :
    (host.loadRegistry yaml dir).run.run w = ((Manifest.load yaml (w.files.isFile w.directory) dir
      path content).mapError (.corpus dir), w) := by
  have hfound : Manifest.find? (((manifestNames.map (Path.join dir)).filter
      (w.files.isFile w.directory)).contains ·) dir = some path :=
    (find?_congr fun _ hname => contains_filter hname).trans hfind
  have hcontent : (host.read path).run w = (some content, w) := by
    rw [← hread]
    rfl
  unfold Host.loadRegistry Manifest.load
  rw [run_lift_bind (run_present w _)]
  simp only [hfound]
  rw [run_lift_bind hcontent]
  cases hparse : Manifest.parse yaml path content with
  | error fault =>
      simp only [hparse]
      rfl
  | ok raws =>
      have hsources : Manifest.registerAll (((raws.map fun raw => Path.join dir raw.source).filter
          (w.files.isFile w.directory)).contains ·) dir .empty raws =
            Manifest.registerAll (w.files.isFile w.directory) dir .empty raws :=
        Manifest.registerAll_congr fun raw hraw => contains_filter (List.mem_map_of_mem hraw)
      simp only [hparse]
      rw [run_lift_bind (run_present w _), hsources]
      rfl

end World

/-- For a manifest that can be read: its corpus is loaded exactly if every case is sound behind
those in front of it.  Then the registry has the listed cases, in their order and as they are
written, each found under its name.  Otherwise the fault is that of the first case that is not
sound.  A world loads the corpus of a directory so, and stays as it is. -/
theorem Manifest.load_all_or_nothing (yaml : DocumentReader) (isFile : String → Bool)
    (dir : String) {path : String} {content : Bytes} {raws : List ManifestCase}
    (hparse : parse yaml path content = .ok raws) :
    let sound := fun before => ManifestCase.Sound isFile dir (before.map ManifestCase.name)
    let fault := fun before => ManifestCase.Fault isFile dir (before.map ManifestCase.name)
    let loaded := load yaml isFile dir path content
    ((∃ registry, loaded = .ok registry) ↔ AllFine sound raws) ∧
      (∀ registry, loaded = .ok registry →
        List.Forall₂ ManifestCase.AsWritten raws registry.cases ∧
          ∀ name case, registry.get? name = some case ↔
            case ∈ registry.cases ∧ case.name = name) ∧
      (∀ e, loaded = .error e ↔ FirstFault sound fault raws e) ∧
      ∀ w : World, w.files.isFile w.directory = isFile → find? isFile dir = some path →
        w.files.read? w.directory path = some content →
          (World.host.loadRegistry yaml dir).run.run w = (loaded.mapError (.corpus dir), w) := by
  intro sound fault loaded
  have hloaded : loaded = registerAll isFile dir .empty raws := by
    change (parse yaml path content).bind _ = _
    rw [hparse]
    rfl
  have hdecides := decides_registerAll isFile dir Registry.Consistent.empty raws
  refine ⟨?_, ?_, ?_, ?_⟩
  · rw [hloaded]
    exact hdecides.ok_iff
  · intro registry hregistry
    rw [hloaded] at hregistry
    obtain ⟨hconsistent, cases, hwritten, hcases⟩ :=
      asWritten_of_registerAll Registry.Consistent.empty hregistry
    have hsame : registry.cases = cases := hcases
    exact ⟨hsame ▸ hwritten, fun _ _ => hconsistent.get?_eq_some_iff⟩
  · rw [hloaded]
    exact hdecides.error_iff
  · rintro w rfl hfind hread
    exact World.run_loadRegistry yaml hfind hread

namespace Manifest.Listing

/-- Two cases as lists, the first with a tag that is written twice. -/
def text : List Char :=
  "\x7b\"cases\":[[\"f\",\"f.c\",\"bitwise\",\"void\",[],[\"b\",\"a\",\"b\"]],".toList ++
    "[\"g\",\"g.c\",\"bitwise\"]]\x7d".toList

def case (name source : String) (tags : List String) : ManifestCase :=
  ⟨name, source, .bitwise, "void", [], tags, []⟩

def cases : List ManifestCase :=
  [case "f" "f.c" ["b", "a", "b"], case "g" "g.c" []]

set_option maxRecDepth 4000 in
theorem parse_text : parse Yaml.reader "corpus/corpus.json" (Text.utf8 text) = .ok cases := by
  rw [parse, Text.utf8?_utf8 (by decide +kernel)]
  rfl

/-- A directory with the manifest and some sources. -/
def world (sources : List String) : World where
  files := ⟨[(["corpus"], .directory), (["corpus", "corpus.json"], .file (Text.utf8 text))] ++
    sources.map fun source => (["corpus", source], .file [])⟩
  directory := []
  surroundings := ⟨fun _ => none, 2⟩
  compilers := []
  printed := ""

theorem describes_case (name source : String) (tags : List String) :
    (case name source tags).Describes ⟨name, [], .void⟩ := by
  have hvoid : ReturnType.read "void".toList = .ok .void := by rfl
  exact ⟨rfl, .nil, hvoid⟩

theorem sound_case {isFile : String → Bool} {earlier : List String} {name source : String}
    {tags : List String} (hsource : isFile (Path.join "corpus" source) = true)
    (hname : Text.isIdentifier name.toList = true) (hnew : name ∉ earlier) :
    (case name source tags).Sound isFile "corpus" earlier where
  returns := ⟨.void, (describes_case name source tags).returns⟩
  params := List.forall_mem_nil _
  source := hsource
  signature := by
    refine ⟨_, describes_case name source tags, ?_⟩
    rw [Signature.validate, hname]
    rfl
  name := hnew

end Manifest.Listing

namespace Manifest

open Listing

/-- With both sources the two cases are loaded; without the second one its case is reported. -/
theorem load_all_or_nothing_listing :
    (∃ registry, load Yaml.reader ((world ["f.c", "g.c"]).files.isFile []) "corpus"
        "corpus/corpus.json" (Text.utf8 text) = .ok registry ∧
      List.Forall₂ ManifestCase.AsWritten cases registry.cases) ∧
    (World.host.loadRegistry Yaml.reader "corpus").run.run (world ["f.c"]) =
      (.error (.corpus "corpus" (.missingSource "g" "corpus/g.c")), world ["f.c"]) := by
  constructor
  · obtain ⟨hok, hwritten, _⟩ :=
      load_all_or_nothing Yaml.reader ((world ["f.c", "g.c"]).files.isFile []) "corpus" parse_text
    obtain ⟨registry, hregistry⟩ := hok.2 <| allFine_cons_iff.2
      ⟨sound_case (by decide +kernel) (by decide) (by simp), allFine_cons_iff.2
        ⟨sound_case (by decide +kernel) (by decide) (by decide), allFine_nil⟩⟩
    exact ⟨registry, hregistry, (hwritten registry hregistry).1⟩
  · obtain ⟨_, _, herror, hworld⟩ :=
      load_all_or_nothing Yaml.reader ((world ["f.c"]).files.isFile []) "corpus" parse_text
    have hfault := (herror (.missingSource "g" "corpus/g.c")).2 ⟨[_], _, [], rfl,
      allFine_cons_iff.2 ⟨sound_case (by decide +kernel) (by decide) (by simp), allFine_nil⟩,
      .source (describes_case _ _ _) (by decide +kernel)⟩
    rw [hworld (world ["f.c"]) rfl (by decide +kernel) (by rfl), hfault]
    rfl

end Manifest

end Counterpart
