/-
Loading a corpus.  The cases of a manifest are built, looked up and registered one after another;
the corpus is loaded if all of them are sound, and then it is the cases as they are written.
Otherwise the first case that is not sound tells its fault, and nothing else comes of it.
-/
import Counterpart.Corpus.Manifest
import Counterpart.Proofs.Check
import Counterpart.Proofs.Corpus.Registration
import Counterpart.Proofs.Forall
import Counterpart.Proofs.Signature.Rules

namespace Counterpart

/-- A parameter is the one that a manifest gives. -/
structure ManifestParam.AsWritten (raw : ManifestParam) (p : Param) : Prop where
  name : p.name = raw.name
  type : ValueType.read raw.type.toList = .ok p.ty
  range : p.range = raw.range
  nullable : p.nullable = raw.nullable
  ignore : p.ignore = raw.ignore

namespace ManifestCase

/-- A signature is the one that a manifest gives. -/
structure Describes (raw : ManifestCase) (sig : Signature) : Prop where
  name : sig.name = raw.name
  params : List.Forall₂ ManifestParam.AsWritten raw.params sig.params
  returns : ReturnType.read raw.returns.toList = .ok sig.ret

/-- A case is the one that a manifest gives, its tags in ascending order and each once. -/
structure AsWritten (raw : ManifestCase) (case : ReferenceCase) : Prop where
  signature : raw.Describes case.signature
  category : case.category = raw.category
  tags : ∀ tag, tag ∈ case.tags ↔ tag ∈ raw.tags
  ascending : case.tags.Pairwise (· < ·)
  source : case.source = raw.source
  explicit : case.explicit = raw.explicit

/-- A case of a manifest that can be taken behind cases of other names. -/
structure Sound (isFile : String → Bool) (dir : String) (earlier : List String)
    (raw : ManifestCase) : Prop where
  returns : ∃ ret, ReturnType.read raw.returns.toList = .ok ret
  params : ∀ p ∈ raw.params, ∃ ty, ValueType.read p.type.toList = .ok ty
  source : isFile (Path.join dir raw.source) = true
  signature : ∃ sig, raw.Describes sig ∧ sig.validate = .ok ()
  name : raw.name ∉ earlier

/-- The fault of a case of a manifest: that of its result type, or else of its first parameter type
at fault, or else of its source, or else of its signature, or else of its name. -/
inductive Fault (isFile : String → Bool) (dir : String) (earlier : List String)
    (raw : ManifestCase) : CorpusError → Prop
  | returns {fault : TypeError} (hret : ReturnType.read raw.returns.toList = .error fault) :
      Fault isFile dir earlier raw (.invalidType raw.name "<return>" fault)
  | param {ret : ReturnType} {before after : List ManifestParam} {p : ManifestParam}
      {fault : TypeError} (hret : ReturnType.read raw.returns.toList = .ok ret)
      (hsplit : raw.params = before ++ p :: after)
      (hbefore : ∀ q ∈ before, ∃ ty, ValueType.read q.type.toList = .ok ty)
      (htype : ValueType.read p.type.toList = .error fault) :
      Fault isFile dir earlier raw (.invalidType raw.name p.name fault)
  | source {sig : Signature} (hsig : raw.Describes sig)
      (hsource : isFile (Path.join dir raw.source) = false) :
      Fault isFile dir earlier raw (.missingSource raw.name (Path.join dir raw.source))
  | signature {sig : Signature} {fault : SignatureError} (hsig : raw.Describes sig)
      (hsource : isFile (Path.join dir raw.source) = true)
      (hvalidate : sig.validate = .error fault) :
      Fault isFile dir earlier raw (.invalidSignature raw.name fault)
  | name {sig : Signature} (hsig : raw.Describes sig)
      (hsource : isFile (Path.join dir raw.source) = true) (hvalidate : sig.validate = .ok ())
      (htaken : raw.name ∈ earlier) :
      Fault isFile dir earlier raw (.duplicateName raw.name)

end ManifestCase

section Build

variable {raw : ManifestCase}

theorem ManifestParam.build_eq_ok_iff {case : String} {p : ManifestParam} {q : Param} :
    p.build case = .ok q ↔ p.AsWritten q := by
  unfold ManifestParam.build
  constructor
  · intro hbuild
    split at hbuild
    · cases hbuild
    · next ty htype =>
      cases hbuild
      exact ⟨rfl, htype, rfl, rfl, rfl⟩
  · rintro ⟨hname, htype, hrange, hnullable, hignore⟩
    rw [htype, ← hname, ← hrange, ← hnullable, ← hignore]

theorem ManifestParam.build_eq_error_iff {case : String} {p : ManifestParam} {e : CorpusError} :
    p.build case = .error e ↔
      ∃ fault, ValueType.read p.type.toList = .error fault ∧
        .invalidType case p.name fault = e := by
  unfold ManifestParam.build
  cases ValueType.read p.type.toList with
  | error fault => simp
  | ok ty => simp

theorem ManifestParam.exists_asWritten_iff {p : ManifestParam} :
    (∃ q, p.AsWritten q) ↔ ∃ ty, ValueType.read p.type.toList = .ok ty := by
  constructor
  · rintro ⟨q, hq⟩
    exact ⟨q.ty, hq.type⟩
  · rintro ⟨ty, htype⟩
    exact ⟨⟨p.name, ty, p.range, p.nullable, p.ignore⟩, rfl, htype, rfl, rfl, rfl⟩

namespace ManifestCase

/-- The types of the parameters are read if each of them is, and the first that is not tells. -/
theorem decides_params (raw : ManifestCase) :
    Decides (raw.params.mapM (ManifestParam.build raw.name))
      (∀ p ∈ raw.params, ∃ ty, ValueType.read p.type.toList = .ok ty) fun e =>
        ∃ before p after fault, raw.params = before ++ p :: after ∧
          (∀ q ∈ before, ∃ ty, ValueType.read q.type.toList = .ok ty) ∧
          ValueType.read p.type.toList = .error fault ∧ .invalidType raw.name p.name fault = e := by
  have hreads : ∀ p : ManifestParam, (∃ q, p.build raw.name = .ok q) ↔
      ∃ ty, ValueType.read p.type.toList = .ok ty := by
    intro p
    simp only [ManifestParam.build_eq_ok_iff, ManifestParam.exists_asWritten_iff]
  refine (decides_mapM (ManifestParam.build raw.name) raw.params).congr ?_ fun e => ?_
  · exact forall₂_congr fun p _ => hreads p
  · simp only [FirstFault, allFine_iff_forall, hreads, ManifestParam.build_eq_error_iff,
      exists_and_left]

/-- The result type, or its fault under the label that stands for it. -/
def readReturns (raw : ManifestCase) : Except CorpusError ReturnType :=
  (ReturnType.read raw.returns.toList).mapError (.invalidType raw.name returnLabel)

theorem build_eq (raw : ManifestCase) : raw.build = raw.readReturns >>= fun ret =>
    raw.params.mapM (ManifestParam.build raw.name) >>= fun params =>
      .ok ⟨⟨raw.name, params, ret⟩, raw.category, sortNames raw.tags, raw.source,
        raw.explicit⟩ := by
  rw [build, readReturns]
  cases ReturnType.read raw.returns.toList with
  | error fault => rfl
  | ok ret => rfl

theorem build_asWritten {case : ReferenceCase} (hbuild : raw.build = .ok case) :
    raw.AsWritten case := by
  rw [build_eq] at hbuild
  obtain ⟨ret, hret, hbuild⟩ := bind_eq_ok_iff.1 hbuild
  obtain ⟨params, hparams, hcase⟩ := bind_eq_ok_iff.1 hbuild
  cases hcase
  have hall : List.Forall₂ ManifestParam.AsWritten raw.params params :=
    (mapM_eq_ok_iff.1 hparams).imp fun _ _ => ManifestParam.build_eq_ok_iff.1
  exact ⟨⟨rfl, hall, mapError_eq_ok_iff.1 hret⟩, rfl, fun _ => mem_sortNames,
    pairwise_sortNames raw.tags, rfl, rfl⟩

/-- Only the signature of the case that is built is described. -/
theorem Describes.eq_of_build {sig : Signature} {case : ReferenceCase} (hsig : raw.Describes sig)
    (hbuild : raw.build = .ok case) : case.signature = sig := by
  have hall : raw.params.mapM (ManifestParam.build raw.name) = .ok sig.params :=
    mapM_eq_ok_iff.2 (hsig.params.imp fun _ _ => ManifestParam.build_eq_ok_iff.2)
  rw [build_eq] at hbuild
  obtain ⟨ret, hret, hbuild⟩ := bind_eq_ok_iff.1 hbuild
  obtain ⟨params, hparams, hcase⟩ := bind_eq_ok_iff.1 hbuild
  cases hcase
  cases hparams.symm.trans hall
  cases (mapError_eq_ok_iff.1 hret).symm.trans hsig.returns
  rw [← hsig.name]

/-- What holds of the signature of the case that is built holds of the one described. -/
theorem exists_describes_and_iff {case : ReferenceCase} (hbuild : raw.build = .ok case)
    {P : Signature → Prop} : (∃ sig, raw.Describes sig ∧ P sig) ↔ P case.signature := by
  constructor
  · rintro ⟨sig, hsig, hp⟩
    rwa [hsig.eq_of_build hbuild]
  · intro hp
    exact ⟨_, (build_asWritten hbuild).signature, hp⟩

theorem exists_describes_iff : (∃ sig, raw.Describes sig) ↔
    (∃ ret, ReturnType.read raw.returns.toList = .ok ret) ∧
      ∀ p ∈ raw.params, ∃ ty, ValueType.read p.type.toList = .ok ty := by
  simp only [← ManifestParam.exists_asWritten_iff]
  constructor
  · rintro ⟨sig, hsig⟩
    refine ⟨⟨sig.ret, hsig.returns⟩, ?_⟩
    intro p hp
    obtain ⟨q, _, hq⟩ := exists_mem_of_forall₂ hsig.params.flip hp
    exact ⟨q, hq⟩
  · rintro ⟨⟨ret, hret⟩, hparams⟩
    obtain ⟨params, hall⟩ := exists_forall₂ hparams
    exact ⟨⟨raw.name, params, ret⟩, rfl, hall, hret⟩

/-- A case is built if its types are read; the result type comes before those of the parameters. -/
theorem decides_build (raw : ManifestCase) :
    Decides raw.build (∃ sig, raw.Describes sig) fun e =>
      (∃ fault, ReturnType.read raw.returns.toList = .error fault ∧
        .invalidType raw.name returnLabel fault = e) ∨
      (∃ ret, ReturnType.read raw.returns.toList = .ok ret) ∧
        ∃ before p after fault, raw.params = before ++ p :: after ∧
          (∀ q ∈ before, ∃ ty, ValueType.read q.type.toList = .ok ty) ∧
          ValueType.read p.type.toList = .error fault ∧
          .invalidType raw.name p.name fault = e := by
  have hreturns : Decides raw.readReturns _ _ :=
    Decides.mapError ⟨Iff.rfl, fun _ => Iff.rfl⟩ (CorpusError.invalidType raw.name returnLabel)
  rw [build_eq]
  refine (hreturns.bind fun ret _ => (decides_params raw).bind fun params _ => .ok _).congr ?_
    fun e => ?_
  · rw [and_true, exists_describes_iff]
  · rw [and_false, or_false]

end ManifestCase

end Build

section Admission

/-- A case with a valid signature and a free name is registered; an invalid signature is reported
before a name that is taken. -/
theorem Registry.Consistent.decides_register {registry : Registry}
    (hconsistent : registry.Consistent) (case : ReferenceCase) :
    Decides (registry.register case)
      (case.signature.validate = .ok () ∧ case.name ∉ registry.names) fun e =>
        (∃ fault, case.signature.validate = .error fault ∧ e = .invalidSignature case.name fault) ∨
          case.signature.validate = .ok () ∧ case.name ∈ registry.names ∧
            e = .duplicateName case.name := by
  rcases hrun : (submit case).run.run registry with ⟨outcome, next⟩
  have hregister : registry.register case = outcome.map fun _ => next := by
    rw [register, hrun]
    cases outcome <;> rfl
  rw [hregister]
  cases submitted_of_run hrun with
  | invalid hinvalid =>
      exact ⟨by simp [hinvalid, Except.map], by simp [hinvalid, Except.map, eq_comm]⟩
  | taken hvalid htaken =>
      rw [hconsistent.isSome_lookup_iff] at htaken
      exact ⟨by simp [htaken, Except.map], by simp [hvalid, htaken, Except.map, eq_comm]⟩
  | accepted hvalid hfree =>
      rw [hconsistent.isSome_lookup_iff] at hfree
      exact ⟨by simp [hvalid, hfree, Except.map], by simp [hvalid, hfree, Except.map]⟩

variable {isFile : String → Bool} {dir : String} {registry next : Registry} {raw : ManifestCase}

namespace ManifestCase

/-- One case of a manifest behind those of a registry. -/
def enroll (isFile : String → Bool) (dir : String) (registry : Registry) (raw : ManifestCase) :
    Except CorpusError Registry :=
  raw.build >>= fun case =>
    require (isFile (Path.join dir case.source))
      (.missingSource case.name (Path.join dir case.source)) >>= fun _ => registry.register case

/-- A sound case is taken, and any other tells its first fault. -/
theorem decides_enroll (isFile : String → Bool) (dir : String) (hconsistent : registry.Consistent)
    (raw : ManifestCase) : Decides (raw.enroll isFile dir registry)
      (raw.Sound isFile dir registry.names) (raw.Fault isFile dir registry.names) := by
  have hbehind : ∀ case, raw.build = .ok case →
      Decides (require (isFile (Path.join dir case.source))
          (.missingSource case.name (Path.join dir case.source)) >>= fun _ =>
            registry.register case)
        (isFile (Path.join dir raw.source) = true ∧
          (∃ sig, raw.Describes sig ∧ sig.validate = .ok ()) ∧ raw.name ∉ registry.names)
        fun e =>
          (isFile (Path.join dir raw.source) = false ∧
            e = .missingSource raw.name (Path.join dir raw.source)) ∨
          isFile (Path.join dir raw.source) = true ∧
            ((∃ sig, raw.Describes sig ∧ ∃ fault, sig.validate = .error fault ∧
                e = .invalidSignature raw.name fault) ∨
              (∃ sig, raw.Describes sig ∧ sig.validate = .ok ()) ∧ raw.name ∈ registry.names ∧
                e = .duplicateName raw.name) := by
    intro case hcase
    have hwritten := build_asWritten hcase
    have hname : case.name = raw.name := hwritten.signature.name
    rw [hwritten.source, hname]
    refine ((decides_require _ _).bind fun _ _ => hconsistent.decides_register case).congr ?_
      fun e => ?_
    · rw [exists_describes_and_iff hcase, hname]
    · simp only [exists_describes_and_iff hcase, hname]
  refine ((decides_build raw).bind hbehind).congr ?_ fun e => ?_
  · constructor
    · rintro ⟨hdescribes, hsource, hvalid, hfree⟩
      obtain ⟨hret, hparams⟩ := exists_describes_iff.1 hdescribes
      exact ⟨hret, hparams, hsource, hvalid, hfree⟩
    · rintro ⟨hret, hparams, hsource, hvalid, hfree⟩
      exact ⟨exists_describes_iff.2 ⟨hret, hparams⟩, hsource, hvalid, hfree⟩
  · constructor
    · rintro ((⟨fault, hret, rfl⟩ | ⟨⟨ret, hret⟩, before, p, after, fault, hsplit, hbefore, htype,
        rfl⟩) | ⟨⟨sig, hsig⟩, ⟨hsource, rfl⟩ | ⟨hsource, hregister⟩⟩)
      · exact .returns hret
      · exact .param hret hsplit hbefore htype
      · exact .source hsig hsource
      · rcases hregister with ⟨sig, hsig, fault, hfault, rfl⟩ | ⟨⟨sig, hsig, hvalid⟩, htaken, rfl⟩
        · exact .signature hsig hsource hfault
        · exact .name hsig hsource hvalid htaken
    · intro he
      cases he with
      | returns hret => exact .inl (.inl ⟨_, hret, rfl⟩)
      | param hret hsplit hbefore htype =>
          exact .inl (.inr ⟨⟨_, hret⟩, _, _, _, _, hsplit, hbefore, htype, rfl⟩)
      | source hsig hsource => exact .inr ⟨⟨_, hsig⟩, .inl ⟨hsource, rfl⟩⟩
      | signature hsig hsource hfault =>
          exact .inr ⟨⟨_, hsig⟩, .inr ⟨hsource, .inl ⟨_, hsig, _, hfault, rfl⟩⟩⟩
      | name hsig hsource hvalid htaken =>
          exact .inr ⟨⟨_, hsig⟩, .inr ⟨hsource, .inr ⟨⟨_, hsig, hvalid⟩, htaken, rfl⟩⟩⟩

/-- A case that is taken stands behind the others as it is written. -/
theorem added_of_enroll (henrolled : raw.enroll isFile dir registry = .ok next) :
    ∃ case, raw.AsWritten case ∧ Registry.Submitted registry case (.ok ()) (registry.added case) ∧
      next = registry.added case := by
  obtain ⟨case, hbuild, hrest⟩ := bind_eq_ok_iff.1 henrolled
  obtain ⟨_, _, hregister⟩ := bind_eq_ok_iff.1 hrest
  have hsubmitted := Registry.submitted_of_run (Registry.run_of_register hregister)
  cases hsubmitted with
  | accepted hvalid hfree => exact ⟨case, build_asWritten hbuild, .accepted hvalid hfree, rfl⟩

/-- Only the source of the case is looked up. -/
theorem enroll_congr {isFile' : String → Bool}
    (hsame : isFile (Path.join dir raw.source) = isFile' (Path.join dir raw.source)) :
    raw.enroll isFile dir registry = raw.enroll isFile' dir registry := by
  unfold enroll
  cases hbuild : raw.build with
  | error e => rfl
  | ok case =>
      rw [← (build_asWritten hbuild).source] at hsame
      change require _ _ >>= _ = require _ _ >>= _
      rw [hsame]

end ManifestCase

theorem Manifest.registerAll_cons (isFile : String → Bool) (dir : String) (registry : Registry)
    (raw : ManifestCase) (rest : List ManifestCase) :
    registerAll isFile dir registry (raw :: rest) =
      raw.enroll isFile dir registry >>= fun next => registerAll isFile dir next rest := by
  rw [registerAll, ManifestCase.enroll, bind_assoc]
  refine congrArg _ (funext fun case => ?_)
  rw [bind_assoc]
  cases hsource : isFile (Path.join dir case.source) with
  | false =>
      simp only [hsource]
      rfl
  | true =>
      simp only [hsource]
      rfl

namespace Manifest

variable {raws : List ManifestCase}

theorem registerAll_congr {isFile' : String → Bool}
    (hsame : ∀ raw ∈ raws,
      isFile (Path.join dir raw.source) = isFile' (Path.join dir raw.source)) :
    registerAll isFile dir registry raws = registerAll isFile' dir registry raws := by
  induction raws generalizing registry with
  | nil => rfl
  | cons raw raws ih =>
      obtain ⟨hfirst, hrest⟩ := List.forall_mem_cons.1 hsame
      rw [registerAll_cons, registerAll_cons, ManifestCase.enroll_congr hfirst]
      exact congrArg _ (funext fun next => ih hrest)

/-- The cases are taken one after another, each behind those in front of it. -/
theorem decides_registerAll (isFile : String → Bool) (dir : String)
    (hconsistent : registry.Consistent) (raws : List ManifestCase) :
    Decides (registerAll isFile dir registry raws)
      (AllFine (fun before => ManifestCase.Sound isFile dir
        (registry.names ++ before.map (·.name))) raws)
      (FirstFault (fun before => ManifestCase.Sound isFile dir
          (registry.names ++ before.map (·.name)))
        (fun before => ManifestCase.Fault isFile dir (registry.names ++ before.map (·.name)))
        raws) := by
  induction raws generalizing registry with
  | nil => exact .nil registry
  | cons raw raws ih =>
      rw [registerAll_cons]
      refine .cons ?_ fun next hnext => ?_
      · rw [List.map_nil, List.append_nil]
        exact ManifestCase.decides_enroll isFile dir hconsistent raw
      · obtain ⟨case, hwritten, hsubmitted, rfl⟩ := ManifestCase.added_of_enroll hnext
        have hname : case.name = raw.name := hwritten.signature.name
        have hnames : ∀ before : List ManifestCase, registry.names ++ (raw :: before).map (·.name) =
            (registry.added case).names ++ before.map (·.name) := by
          intro before
          rw [Registry.names_added, hname, List.map_cons, List.append_assoc, List.singleton_append]
        simp only [hnames]
        exact ih (hconsistent.submitted hsubmitted)

/-- The cases that were taken stand in their order, each as it is written. -/
theorem asWritten_of_registerAll (hconsistent : registry.Consistent)
    (hall : registerAll isFile dir registry raws = .ok next) : next.Consistent ∧
      ∃ cases, List.Forall₂ ManifestCase.AsWritten raws cases ∧
        next.cases = registry.cases ++ cases := by
  induction raws generalizing registry with
  | nil =>
      cases hall
      exact ⟨hconsistent, [], .nil, (List.append_nil _).symm⟩
  | cons raw raws ih =>
      rw [registerAll_cons] at hall
      obtain ⟨reached, henrolled, hrest⟩ := bind_eq_ok_iff.1 hall
      obtain ⟨case, hwritten, hsubmitted, rfl⟩ := ManifestCase.added_of_enroll henrolled
      obtain ⟨hnext, cases, hcases, hmore⟩ := ih (hconsistent.submitted hsubmitted) hrest
      refine ⟨hnext, case :: cases, .cons hwritten hcases, ?_⟩
      rw [hmore, Registry.added_cases, List.append_assoc, List.singleton_append]

end Manifest

end Admission

end Counterpart
