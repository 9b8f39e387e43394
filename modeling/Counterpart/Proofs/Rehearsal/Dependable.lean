/-
Rehearsals in which only the variants misbehave.  Every rehearsal keeps its work directories
apart, and it is dependable if its compiler starts, its driver is built, and the scripts of
its sources ask for nothing that would be the fault of the bench.
-/
import Counterpart.Proofs.Path.Join
import Counterpart.Proofs.Text.Utf8
import Counterpart.Proofs.Trial.Dependable
import Counterpart.Rehearsal.Bench

namespace Counterpart

/-- What a variant may do: it is not compiled or not linked, with diagnostics, or it is built,
starts, and prints what is allowed. -/
structure Script.Permitted (allowed : Bytes → Prop) (script : Script) : Prop where
  compiles : script.compileFault ≠ some .spawn
  links : script.linkFault ≠ some .spawn
  stays : script.isVanishing = false
  prints : ∀ n input, allowed ((script.nth n).output input)

namespace ScriptRun

theorem printed_process (run : ScriptRun) (input : Bytes) (limits : Limits) :
    (run.process input limits).printed = run.output input :=
  List.flatten_singleton

/-- An execution ends as its script says, and is found so by the first look. -/
theorem supervise_process (run : ScriptRun) (input : Bytes) (limits : Limits) :
    (run.process input limits).supervise limits.timeoutNanos =
      .ok ⟨(run.status?.map Ending.ofStatus).getD .timedOut,
        (run.output input).take Process.captureLimit⟩ := by
  have hdecides : (run.process input limits).Decides limits.timeoutNanos 0
      ((run.status?.map Ending.ofStatus).getD .timedOut) := by
    cases hstatus : run.status? with
    | none => exact .late (congrArg Except.ok hstatus) (Nat.le_add_left _ _)
    | some status => exact .ended (congrArg Except.ok hstatus)
  rw [hdecides.supervise_eq, run.printed_process]

end ScriptRun

namespace Rehearsal

/-- What was prepared for a rehearsal. -/
def setup (r : Rehearsal) : Rehearsal :=
  start r.compiler r.version r.workdir r.driver r.script

/-- A rehearsal prepared in the same way. -/
def Ready (prepared r : Rehearsal) : Prop :=
  r.setup = prepared.setup

/-- The variants are built in the work directory, and all that is in it may be used. -/
structure Inside (allowed : Bytes → Prop) (prepared : Rehearsal) (w : String)
    (vs : List Variant) (r : Rehearsal) : Prop where
  ready : Ready prepared r
  workdir : w = r.workdir
  objects : ∀ x ∈ r.objects, x.2.Permitted allowed
  programs : ∀ x ∈ r.programs, x.2.Permitted allowed
  built : ∀ v ∈ vs, ∃ script, r.programs.lookup (Trial.executable v w) = some script

/-- The same directory in rehearsals that differ in nothing but what was asked of them. -/
def Alike (w w' : String) (r r' : Rehearsal) : Prop :=
  w = w' ∧ ∃ calls, r' = { r with calls := calls }

/-- A rehearsal in which only the variants may misbehave.  What holds of the sources holds of
the driver, whose name a source may have. -/
structure Orderly (allowed : Bytes → Prop) (prepared : Rehearsal) : Prop where
  version : ∃ version, prepared.version = .ok version
  silence : allowed []
  driver : prepared.driver.Permitted allowed
  driven : prepared.driver.compileFault = none
  scripts : ∀ source, (prepared.script source).Permitted allowed

section

variable {prepared r : Rehearsal}

theorem Ready.version_eq (hready : Ready prepared r) : r.version = prepared.version :=
  show r.setup.version = prepared.setup.version from congrArg _ hready

theorem Ready.workdir_eq (hready : Ready prepared r) : r.workdir = prepared.workdir :=
  show r.setup.workdir = prepared.setup.workdir from congrArg _ hready

theorem Ready.driver_eq (hready : Ready prepared r) : r.driver = prepared.driver :=
  show r.setup.driver = prepared.setup.driver from congrArg _ hready

theorem Ready.script_eq (hready : Ready prepared r) : r.script = prepared.script :=
  show r.setup.script = prepared.setup.script from congrArg _ hready

end

theorem not_refuses_nil : ¬ DriverReport.Refuses [] := by
  rintro ⟨line, hline, rest, hrest, _⟩
  rw [Text.lossy_nil] at hline
  cases List.mem_singleton.1 hline
  cases hrest

theorem quiet_nil : DriverReport.Quiet [] := by
  rw [DriverReport.Quiet, List.take_nil]
  exact not_refuses_nil

variable {allowed : Bytes → Prop} {prepared r : Rehearsal} {w : String} {vs : List Variant}

theorem permitted_plain (hsilence : allowed []) : Script.plain.Permitted allowed :=
  ⟨nofun, nofun, rfl, fun _ _ => hsilence⟩

/-- What is built without fault and runs the same way each time. -/
theorem permitted_single {run : ScriptRun} (hprints : ∀ input, allowed (run.output input)) :
    Script.Permitted allowed ⟨none, none, false, [run]⟩ := by
  refine ⟨nofun, nofun, rfl, ?_⟩
  rintro (_ | n) input
  · exact hprints input
  · exact hprints input

theorem orderly_start {compiler version workdir : String} {script : String → Script}
    (hsilence : allowed []) (hscripts : ∀ source, (script source).Permitted allowed) :
    (start compiler (.ok version) workdir .plain script).Orderly allowed :=
  ⟨⟨version, rfl⟩, hsilence, permitted_plain hsilence, rfl, hscripts⟩

theorem permitted_scriptOf (horderly : Orderly allowed prepared) (hready : Ready prepared r)
    (source : String) : (r.scriptOf source).Permitted allowed := by
  unfold scriptOf
  split
  · exact hready.driver_eq ▸ horderly.driver
  · exact hready.script_eq ▸ horderly.scripts source

theorem permitted_lookup {xs : List (String × Script)} (hxs : ∀ x ∈ xs, x.2.Permitted allowed)
    {key : String} {script : Script} (hlookup : xs.lookup key = some script) :
    script.Permitted allowed := by
  obtain ⟨front, back, rfl, _⟩ := List.lookup_eq_some_iff.1 hlookup
  exact hxs (key, script) (List.mem_append_right _ List.mem_cons_self)

theorem permitted_linked (horderly : Orderly allowed prepared)
    (hinside : Inside allowed prepared w vs r) (job : LinkJob) :
    (r.linked job).Permitted allowed := by
  unfold linked
  rcases hscript : (job.objects.getLast?).bind fun object => r.objects.lookup object with _ | script
  · exact permitted_plain horderly.silence
  · obtain ⟨object, _, hlookup⟩ := Option.bind_eq_some_iff.1 hscript
    exact permitted_lookup hinside.objects hlookup

/-- What is written, asked and run does not count. -/
theorem Inside.congr (hinside : Inside allowed prepared w vs r) {r' : Rehearsal}
    (hsetup : r'.setup = r.setup) (hobjects : r'.objects = r.objects)
    (hprograms : r'.programs = r.programs) : Inside allowed prepared w vs r' := by
  have hready : Ready prepared r' := hsetup.trans hinside.ready
  have hworkdir : r'.workdir = r.workdir := hready.workdir_eq.trans hinside.ready.workdir_eq.symm
  constructor
  · exact hready
  · exact hinside.workdir.trans hworkdir.symm
  · exact hobjects ▸ hinside.objects
  · exact hprograms ▸ hinside.programs
  · exact hprograms ▸ hinside.built

theorem Inside.withObject (hinside : Inside allowed prepared w vs r) (calls : List CompilerCall)
    (output : String) {script : Script} (hscript : script.Permitted allowed) :
    Inside allowed prepared w vs
      { r with calls := calls, objects := (output, script) :: r.objects } := by
  refine ⟨hinside.ready, hinside.workdir, ?_, hinside.programs, hinside.built⟩
  intro x hx
  rcases List.mem_cons.1 hx with rfl | hx
  · exact hscript
  · exact hinside.objects x hx

theorem Inside.withProgram (hinside : Inside allowed prepared w vs r) (calls : List CompilerCall)
    (output : String) {script : Script} (hscript : script.Permitted allowed) :
    Inside allowed prepared w vs
      { r with calls := calls, programs := (output, script) :: r.programs } := by
  refine ⟨hinside.ready, hinside.workdir, hinside.objects, ?_, ?_⟩
  · intro x hx
    rcases List.mem_cons.1 hx with rfl | hx
    · exact hscript
    · exact hinside.programs x hx
  · intro v hv
    obtain ⟨script', hlookup⟩ := hinside.built v hv
    rw [List.lookup_cons]
    split
    · exact ⟨_, rfl⟩
    · exact ⟨script', hlookup⟩

theorem run_compile (r : Rehearsal) (job : CompileJob) :
    (compile job).run r =
      match (r.scriptOf job.source).compileFault with
      | some fault =>
          (.error (r.stepError .compile job.source job.output fault),
            { r with calls := .compile job :: r.calls })
      | none =>
          (.ok (), { r with
            calls := .compile job :: r.calls
            objects := (job.output, r.scriptOf job.source) :: r.objects }) :=
  rfl

theorem run_link (r : Rehearsal) (job : LinkJob) :
    (link job).run r =
      match (r.linked job).linkFault with
      | some fault =>
          (.error (r.stepError .link job.output job.output fault),
            { r with calls := .link job :: r.calls })
      | none =>
          if (r.linked job).isVanishing then (.ok (), { r with calls := .link job :: r.calls })
          else
            (.ok (), { r with
              calls := .link job :: r.calls
              programs := (job.output, r.linked job) :: r.programs }) :=
  rfl

theorem answered_stepError (r : Rehearsal) (stage : Stage) (input output : String)
    {fault : ScriptFault} (hfault : fault ≠ .spawn) :
    Bench.Answered (.error (r.stepError stage input output fault)) := by
  rcases fault with _ | text
  · exact absurd rfl hfault
  · exact .inr ⟨_, _, _, _, rfl⟩

theorem inside_compile (horderly : Orderly allowed prepared)
    (hinside : Inside allowed prepared w vs r) (job : CompileJob) :
    Inside allowed prepared w vs ((compile job).run r).2 := by
  rw [run_compile]
  split
  · exact hinside.congr rfl rfl rfl
  · exact hinside.withObject _ _ (permitted_scriptOf horderly hinside.ready job.source)

theorem answered_compile (horderly : Orderly allowed prepared)
    (hinside : Inside allowed prepared w vs r) (job : CompileJob) :
    Bench.Answered ((compile job).run r).1 := by
  have hpermitted := permitted_scriptOf horderly hinside.ready job.source
  rw [run_compile]
  split
  · next fault hfault =>
      apply answered_stepError
      rintro rfl
      exact hpermitted.compiles hfault
  · exact .inl rfl

theorem answered_link (horderly : Orderly allowed prepared)
    (hinside : Inside allowed prepared w vs r) (job : LinkJob) :
    Bench.Answered ((link job).run r).1 := by
  have hpermitted := permitted_linked horderly hinside job
  rw [run_link]
  split
  · next fault hfault =>
      apply answered_stepError
      rintro rfl
      exact hpermitted.links hfault
  · rw [if_neg (by simp [hpermitted.stays])]
    exact .inl rfl

theorem inside_link (horderly : Orderly allowed prepared)
    (hinside : Inside allowed prepared w vs r) (job : LinkJob) :
    Inside allowed prepared w vs ((link job).run r).2 := by
  have hpermitted := permitted_linked horderly hinside job
  rw [run_link]
  split
  · exact hinside.congr rfl rfl rfl
  · rw [if_neg (by simp [hpermitted.stays])]
    exact hinside.withProgram _ _ hpermitted

/-- A variant that is linked is there. -/
theorem exists_program_of_link (horderly : Orderly allowed prepared)
    (hinside : Inside allowed prepared w vs r) (job : LinkJob)
    (hlinked : ((link job).run r).1 = .ok ()) :
    ∃ script, ((link job).run r).2.programs.lookup job.output = some script := by
  have hpermitted := permitted_linked horderly hinside job
  rw [run_link] at hlinked ⊢
  split at hlinked
  · cases hlinked
  · rw [if_neg (by simp [hpermitted.stays])]
    exact ⟨_, List.lookup_cons_self⟩

theorem scriptOf_driver (r : Rehearsal) (w : String) :
    r.scriptOf (Path.join w Driver.fileName) = r.driver := by
  have hname : Path.fileName? (Path.join w Driver.fileName) = some Driver.fileName :=
    Path.fileName?_join w (by decide) (by decide) (by decide) (by decide)
  rw [scriptOf, if_pos hname]

theorem run_compile_driver (horderly : Orderly allowed prepared)
    (hinside : Inside allowed prepared w vs r) :
    ((compile (Trial.driverJob w)).run r).1 = .ok () := by
  have hdriven : (r.scriptOf (Trial.driverJob w).source).compileFault = none := by
    rw [Trial.driverJob, scriptOf_driver, hinside.ready.driver_eq]
    exact horderly.driven
  rw [run_compile, hdriven]

theorem inside_clear (hready : Ready prepared r) : Inside allowed prepared r.workdir [] r.clear :=
  ⟨hready, rfl, by simp [clear], by simp [clear], by simp⟩

theorem launch_permitted (hinside : Inside allowed prepared w vs r) (program : String)
    (input : Bytes) (limits : Limits) {script : Script}
    (hprogram : r.programs.lookup program = some script) :
    ∃ process, ((launch program input limits).run r).1 = .ok process ∧ process.Watched ∧
      allowed process.printed := by
  have hpermitted := permitted_lookup hinside.programs hprogram
  let run := script.nth (r.launches.count program)
  refine ⟨run.process input limits, ?_, fun _ => ⟨_, rfl⟩, ?_⟩
  · change (launch program input limits r).1 = _
    rw [launch, hprogram]
  · rw [run.printed_process]
    exact hpermitted.prints _ _

theorem inside_launch (hinside : Inside allowed prepared w vs r) (program : String) (input : Bytes)
    (limits : Limits) : Inside allowed prepared w vs ((launch program input limits).run r).2 := by
  change Inside allowed prepared w vs (launch program input limits r).2
  unfold launch
  split
  · exact hinside
  · exact hinside.congr rfl rfl rfl

theorem dependable (horderly : Orderly allowed prepared) :
    bench.Dependable allowed (Ready prepared) (Inside allowed prepared) := by
  constructor
  case probed =>
    intro r hready
    obtain ⟨version, hversion⟩ := horderly.version
    refine ⟨version, r, ?_, hready⟩
    change (r.version, r) = _
    rw [hready.version_eq, hversion]
  case opened =>
    intro r hready
    exact ⟨r.workdir, r.clear, rfl, inside_clear hready⟩
  case closed =>
    intro w vs r hinside
    exact hinside.ready
  case named =>
    intro w vs r hinside
    exact hinside
  case written =>
    intro w vs r name content hinside
    exact ⟨_, rfl, hinside.congr rfl rfl rfl⟩
  case driven =>
    intro w vs r sig guard hinside t hwrite
    have ht : Inside allowed prepared w vs t := by
      cases hwrite
      exact hinside.congr rfl rfl rfl
    exact ⟨_, Prod.ext (run_compile_driver horderly ht) rfl, inside_compile horderly ht _⟩
  case compiled =>
    intro w vs r v source hinside
    exact ⟨_, _, rfl, answered_compile horderly hinside _, inside_compile horderly hinside _⟩
  case linked =>
    intro w vs r v hinside
    have hlinked := inside_link horderly hinside (Trial.linkJob v w)
    refine ⟨_, _, rfl, answered_link horderly hinside _, hlinked, ?_⟩
    intro hok
    refine ⟨hlinked.ready, hlinked.workdir, hlinked.objects, hlinked.programs, ?_⟩
    intro v' hv'
    rcases List.mem_cons.1 hv' with rfl | hv'
    · exact exists_program_of_link horderly hinside _ hok
    · exact hlinked.built v' hv'
  case started =>
    intro w vs r v input limits hinside
    refine ⟨_, _, rfl, inside_launch hinside _ input limits, ?_⟩
    intro hv
    obtain ⟨script, hprogram⟩ := hinside.built v hv
    exact launch_permitted hinside _ input limits hprogram

theorem run_launch (r : Rehearsal) (program : String) (input : Bytes) (limits : Limits) :
    (bench.launch program input limits).run r =
      (((launch program input limits).run r).1.bind (·.supervise limits.timeoutNanos),
        ((launch program input limits).run r).2) :=
  Bench.run_launch rfl

end Rehearsal

end Counterpart
