/-
Benches on which only the variants may misbehave, and what preparing and running a case on
one comes to.  Two work directories in the same condition are followed side by side, so that
a case is seen to depend on nothing but its own directory.
-/
import Counterpart.Proofs.Exchange.Refusal
import Counterpart.Proofs.Trial.Sandbox
import Counterpart.Trial.Run

namespace Counterpart

variable {σ α β : Type}

namespace Trial

/-- The job that compiles the driver. -/
def driverJob (workdir : String) : CompileJob :=
  ⟨Path.join workdir Driver.fileName, driverObject workdir, none, [], false⟩

/-- The job that links a variant. -/
def linkJob (variant : Variant) (workdir : String) : LinkJob :=
  ⟨[driverObject workdir, Path.join workdir (variant.label ++ ".o")],
    executable variant workdir⟩

theorem gives_perform {ε : Type} {f : ε → TrialError} {action : StateM σ (Except ε α)} {s t : σ}
    {a : α} (haction : action.run s = (.ok a, t)) : Gives (perform f action) s a t := by
  unfold Gives perform
  rw [ExceptT.run_mk, StateT.run_bind, haction]
  rfl

end Trial

namespace Bench

/-- Whether the compiler ran, with success or with diagnostics. -/
def Answered (answer : Except ToolchainError Unit) : Prop :=
  answer = .ok () ∨ ∃ stage input status stderr, answer = .error (.failed stage input status stderr)

/-- Two answers of the compiler, for two work directories, that cannot be told apart once the
directories are masked.  Answers that are done leave the directories as `alike` has them. -/
inductive SameAnswer (bench : Bench σ) (alike : String → String → σ → σ → Prop) (w w' : String) :
    Except ToolchainError Unit × σ → Except ToolchainError Unit × σ → Prop
  | done {t t' : σ} (halike : alike w w' t t') :
      SameAnswer bench alike w w' (.ok (), t) (.ok (), t')
  | failed {t t' : σ} {stage : Stage} {input input' stderr stderr' : String}
      {status status' : ExitStatus}
      (hmasked : Trial.diagnostics ((bench.canonical w).run t).1 w stage stderr =
        Trial.diagnostics ((bench.canonical w').run t').1 w' stage stderr') :
      SameAnswer bench alike w w' (.error (.failed stage input status stderr), t)
        (.error (.failed stage input' status' stderr'), t')
  | unanswered {t t' : σ} {answer answer' : Except ToolchainError Unit}
      (hleft : ¬ Answered answer) (hright : ¬ Answered answer') :
      SameAnswer bench alike w w' (answer, t) (answer', t')

/-- A bench on which everything works but the variants.  In a state that is `ready` the
compiler tells its version and a work directory can be had; `inside w vs` are the states in
which the directory `w` is open and the variants `vs` are built in it.  There files can be
written, the driver is compiled, and the compiler does what it is asked or fails with
diagnostics.  A variant that is built starts, can be looked at, and prints what is `allowed`. -/
structure Dependable (bench : Bench σ) (allowed : Bytes → Prop) (ready : σ → Prop)
    (inside : String → List Variant → σ → Prop) : Prop where
  probed : ∀ s, ready s → ∃ version t, bench.probe.run s = (.ok version, t) ∧ ready t
  opened : ∀ s, ready s → ∃ w t, bench.openWorkdir.run s = (.ok w, t) ∧ inside w [] t
  closed : ∀ w vs s, inside w vs s → ready ((bench.closeWorkdir w).run s).2
  named : ∀ w vs s, inside w vs s → inside w vs ((bench.canonical w).run s).2
  written : ∀ w vs s name content, inside w vs s →
    ∃ t, (bench.write (Path.join w name) content).run s = (.ok (), t) ∧ inside w vs t
  driven : ∀ w vs s sig guard, inside w vs s → ∀ t,
    (bench.write (Path.join w Driver.fileName) (Driver.source sig guard)).run s = (.ok (), t) →
      ∃ u, (bench.compile (Trial.driverJob w)).run t = (.ok (), u) ∧ inside w vs u
  compiled : ∀ w vs s v source, inside w vs s →
    ∃ answer t, (bench.compile (Trial.variantJob v source w)).run s = (answer, t) ∧
      Answered answer ∧ inside w vs t
  linked : ∀ w vs s v, inside w vs s →
    ∃ answer t, (bench.link (Trial.linkJob v w)).run s = (answer, t) ∧ Answered answer ∧
      inside w vs t ∧ (answer = .ok () → inside w (v :: vs) t)
  started : ∀ w vs s v input limits, inside w vs s →
    ∃ answer t, (bench.start (Trial.executable v w) input limits).run s = (answer, t) ∧
      inside w vs t ∧
      (v ∈ vs → ∃ process, answer = .ok process ∧ process.Watched ∧ allowed process.printed)

/-- A bench on which what is done in two work directories in the same condition comes out
alike, but for the spelling of the directory in diagnostics. -/
structure Consistent (bench : Bench σ) (alike : String → String → σ → σ → Prop) : Prop where
  written : ∀ w w' s s' name content, alike w w' s s' →
    alike w w' ((bench.write (Path.join w name) content).run s).2
      ((bench.write (Path.join w' name) content).run s').2
  driven : ∀ w w' s s' sig guard, alike w w' s s' → ∀ t t',
    (bench.write (Path.join w Driver.fileName) (Driver.source sig guard)).run s = (.ok (), t) →
    (bench.write (Path.join w' Driver.fileName) (Driver.source sig guard)).run s' = (.ok (), t') →
      alike w w' ((bench.compile (Trial.driverJob w)).run t).2
        ((bench.compile (Trial.driverJob w')).run t').2
  compiled : ∀ w w' s s' v source, alike w w' s s' →
    SameAnswer bench alike w w' ((bench.compile (Trial.variantJob v source w)).run s)
      ((bench.compile (Trial.variantJob v source w')).run s')
  linked : ∀ w w' s s' v, alike w w' s s' →
    SameAnswer bench alike w w' ((bench.link (Trial.linkJob v w)).run s)
      ((bench.link (Trial.linkJob v w')).run s')
  launched : ∀ w w' s s' v input limits, alike w w' s s' →
    ((bench.launch (Trial.executable v w) input limits).run s).1 =
      ((bench.launch (Trial.executable v w') input limits).run s').1 ∧
    alike w w' ((bench.launch (Trial.executable v w) input limits).run s).2
      ((bench.launch (Trial.executable v w') input limits).run s').2

/-- A bench on which a work directory keeps to itself: all new directories are in the same
condition, whatever was done before. -/
structure Isolated (bench : Bench σ) (ready : σ → Prop)
    (alike : String → String → σ → σ → Prop) : Prop extends Consistent bench alike where
  opened : ∀ s s' w w' t t', ready s → ready s' → bench.openWorkdir.run s = (.ok w, t) →
    bench.openWorkdir.run s' = (.ok w', t') → alike w w' t t'

/-- A directory beside itself. -/
def Beside (inside : String → List Variant → σ → Prop) (w w' : String) (s s' : σ) : Prop :=
  w = w' ∧ s = s' ∧ ∃ vs, inside w vs s

/-- A process that was started is supervised in the state it was started in. -/
theorem run_launch {bench : Bench σ} {program : String} {input : Bytes} {limits : Limits}
    {answer : Except String Process} {s t : σ}
    (hstart : (bench.start program input limits).run s = (answer, t)) :
    (bench.launch program input limits).run s =
      (answer.bind (·.supervise limits.timeoutNanos), t) := by
  unfold launch
  rw [StateT.run_bind, hstart]
  rfl

theorem Answered.sameAnswer {bench : Bench σ} {alike : String → String → σ → σ → Prop} {w : String}
    {answer : Except ToolchainError Unit} {t : σ} (hanswered : Answered answer)
    (halike : alike w w t t) : SameAnswer bench alike w w (answer, t) (answer, t) := by
  rcases hanswered with rfl | ⟨stage, input, status, stderr, rfl⟩
  · exact .done halike
  · exact .failed rfl

/-- Every directory is consistent with itself, whatever the variants do. -/
theorem Dependable.consistent {bench : Bench σ} {allowed : Bytes → Prop} {ready : σ → Prop}
    {inside : String → List Variant → σ → Prop}
    (hdep : bench.Dependable allowed ready inside) :
    bench.Consistent (Beside inside) := by
  constructor
  · rintro w _ s _ name content ⟨rfl, rfl, vs, hinside⟩
    obtain ⟨t, ht, hinside⟩ := hdep.written w vs s name content hinside
    rw [ht]
    exact ⟨rfl, rfl, vs, hinside⟩
  · rintro w _ s _ sig guard ⟨rfl, rfl, vs, hinside⟩ t t' ht ht'
    cases ht.symm.trans ht'
    obtain ⟨u, hu, hinside⟩ := hdep.driven w vs s sig guard hinside t ht
    rw [hu]
    exact ⟨rfl, rfl, vs, hinside⟩
  · rintro w _ s _ v source ⟨rfl, rfl, vs, hinside⟩
    obtain ⟨answer, t, ht, hanswered, hinside⟩ := hdep.compiled w vs s v source hinside
    rw [ht]
    exact hanswered.sameAnswer ⟨rfl, rfl, vs, hinside⟩
  · rintro w _ s _ v ⟨rfl, rfl, vs, hinside⟩
    obtain ⟨answer, t, ht, hanswered, hinside, _⟩ := hdep.linked w vs s v hinside
    rw [ht]
    exact hanswered.sameAnswer ⟨rfl, rfl, vs, hinside⟩
  · rintro w _ s _ v input limits ⟨rfl, rfl, vs, hinside⟩
    obtain ⟨answer, t, ht, hinside, _⟩ := hdep.started w vs s v input limits hinside
    rw [run_launch ht]
    exact ⟨rfl, rfl, rfl, vs, hinside⟩

/-- Two work directories with the same variants built, in the same condition. -/
structure Matched (inside : String → List Variant → σ → Prop)
    (alike : String → String → σ → σ → Prop) (vs : List Variant) (w w' : String) (s s' : σ) :
    Prop where
  left : inside w vs s
  right : inside w' vs s'
  alike : alike w w' s s'

end Bench

/-- What is kept of an output has no refusal of the input in it. -/
def DriverReport.Quiet (printed : Bytes) : Prop :=
  ¬ Refuses (printed.take Process.captureLimit)

namespace Trial

open Bench

variable {bench : Bench σ} {ready : σ → Prop} {inside : String → List Variant → σ → Prop}
  {alike : String → String → σ → σ → Prop} {vs : List Variant} {w w' : String} {s s' : σ}

theorem exists_run_write (hdep : bench.Dependable DriverReport.Quiet ready inside)
    (hcons : bench.Consistent alike) (hmatched : Matched inside alike vs w w' s s')
    (name content : String) :
    ∃ t t', (bench.write (Path.join w name) content).run s = (.ok (), t) ∧
      (bench.write (Path.join w' name) content).run s' = (.ok (), t') ∧
      Matched inside alike vs w w' t t' := by
  obtain ⟨t, ht, hinside⟩ := hdep.written w vs s name content hmatched.left
  obtain ⟨t', ht', hinside'⟩ := hdep.written w' vs s' name content hmatched.right
  have halike := hcons.written w w' s s' name content hmatched.alike
  rw [ht, ht'] at halike
  exact ⟨t, t', ht, ht', hinside, hinside', halike⟩

theorem gives_buildDriver {config : Config} {case : ReferenceCase} {t u x : σ}
    (hheader : (bench.write (Path.join w Header.fileName) Header.text).run s = (.ok (), t))
    (hsource : (bench.write (Path.join w Driver.fileName)
      (Driver.source case.signature config.guardBytes)).run t = (.ok (), u))
    (hcompile : (bench.compile (driverJob w)).run u = (.ok (), x)) :
    Gives (buildDriver bench config case w) s () x :=
  gives_bind_iff.2 ⟨(), t, gives_perform hheader,
    gives_bind_iff.2 ⟨(), u, gives_perform hsource, gives_perform hcompile⟩⟩

theorem exists_gives_buildDriver (hdep : bench.Dependable DriverReport.Quiet ready inside)
    (hcons : bench.Consistent alike) (hmatched : Matched inside alike vs w w' s s')
    (config : Config) (case : ReferenceCase) :
    ∃ t t', Gives (buildDriver bench config case w) s () t ∧
      Gives (buildDriver bench config case w') s' () t' ∧ Matched inside alike vs w w' t t' := by
  obtain ⟨t, t', ht, ht', hheader⟩ :=
    exists_run_write hdep hcons hmatched Header.fileName Header.text
  obtain ⟨u, u', hu, hu', _⟩ := exists_run_write hdep hcons hheader Driver.fileName
    (Driver.source case.signature config.guardBytes)
  obtain ⟨x, hx, hinside⟩ := hdep.driven w vs t _ _ hheader.left u hu
  obtain ⟨x', hx', hinside'⟩ := hdep.driven w' vs t' _ _ hheader.right u' hu'
  have halike := hcons.driven w w' t t' _ _ hheader.alike u u' hu hu'
  rw [hx, hx'] at halike
  exact ⟨x, x', gives_buildDriver ht hu hx, gives_buildDriver ht' hu' hx', hinside, hinside',
    halike⟩

theorem run_compileAndLink_of_error {v : Variant} {source : String} {t : σ}
    {fault : ToolchainError} (hcompile : (bench.compile (variantJob v source w)).run s =
      (.error fault, t)) :
    (compileAndLink bench v source w).run s = (.error fault, t) := by
  unfold compileAndLink
  rw [StateT.run_bind, hcompile]
  rfl

theorem run_compileAndLink_of_ok {v : Variant} {source : String} {t : σ}
    (hcompile : (bench.compile (variantJob v source w)).run s = (.ok (), t)) :
    (compileAndLink bench v source w).run s = (bench.link (linkJob v w)).run t := by
  unfold compileAndLink
  rw [StateT.run_bind, hcompile]
  rfl

/-- A variant is compiled and linked in both directories, or in neither, and then with
diagnostics that cannot be told apart. -/
theorem run_compileAndLink (hdep : bench.Dependable DriverReport.Quiet ready inside)
    (hcons : bench.Consistent alike) (hmatched : Matched inside alike vs w w' s s')
    (v : Variant) (source : String) :
    ∃ answer answer' t t', (compileAndLink bench v source w).run s = (answer, t) ∧
      (compileAndLink bench v source w').run s' = (answer', t') ∧
      Answered answer ∧ SameAnswer bench alike w w' (answer, t) (answer', t') ∧
      inside w vs t ∧ inside w' vs t' ∧
      (answer = .ok () → Matched inside alike (v :: vs) w w' t t') := by
  obtain ⟨answer, t, ht, hanswered, hinside⟩ := hdep.compiled w vs s v source hmatched.left
  obtain ⟨answer', t', ht', hanswered', hinside'⟩ :=
    hdep.compiled w' vs s' v source hmatched.right
  have hsame := hcons.compiled w w' s s' v source hmatched.alike
  rw [ht, ht'] at hsame
  cases hsame with
  | unanswered hleft _ => exact absurd hanswered hleft
  | failed hmasked =>
      exact ⟨_, _, t, t', run_compileAndLink_of_error ht, run_compileAndLink_of_error ht',
        hanswered, .failed hmasked, hinside, hinside', by simp⟩
  | done halike =>
      obtain ⟨answer, u, hu, hanswered, hlinked, hbuilt⟩ := hdep.linked w vs t v hinside
      obtain ⟨answer', u', hu', _, hlinked', hbuilt'⟩ := hdep.linked w' vs t' v hinside'
      have hsame := hcons.linked w w' t t' v halike
      rw [hu, hu'] at hsame
      refine ⟨answer, answer', u, u', (run_compileAndLink_of_ok ht).trans hu,
        (run_compileAndLink_of_ok ht').trans hu', hanswered, hsame, hlinked, hlinked', ?_⟩
      intro hok
      cases hsame with
      | unanswered hleft _ => exact absurd hanswered hleft
      | done halike => exact ⟨hbuilt rfl, hbuilt' rfl, halike⟩
      | failed _ => cases hok

theorem gives_buildVariant_of_ok {v : Variant} {source : String} {t : σ}
    (hbuild : (compileAndLink bench v source w).run s = (.ok (), t)) :
    Gives (buildVariant bench v source w) s (.ok (executable v w)) t := by
  unfold Gives buildVariant
  rw [ExceptT.run_mk, StateT.run_bind, hbuild]
  rfl

theorem gives_buildVariant_of_failed {v : Variant} {source : String} {t : σ} {stage : Stage}
    {input stderr text : String} {status : ExitStatus}
    (hbuild : (compileAndLink bench v source w).run s =
      (.error (.failed stage input status stderr), t))
    (htext : diagnostics ((bench.canonical w).run t).1 w stage stderr = text) :
    Gives (buildVariant bench v source w) s (.error text) ((bench.canonical w).run t).2 := by
  unfold Gives buildVariant
  rw [ExceptT.run_mk, StateT.run_bind, hbuild, ← htext]
  rfl

/-- The first variant that is not compiled and linked, the original before the decompiled
one. -/
def firstUnbuilt? (bench : Bench σ) (config : Config) (pair : CasePair) (workdir : String) :
    StateM σ (Option Variant) := do
  let _ ← ExceptT.run (buildDriver bench config pair.case workdir)
  match ← compileAndLink bench .original pair.original workdir with
  | .error _ => return some .original
  | .ok () =>
      match ← compileAndLink bench .decompiled pair.decompiled workdir with
      | .error _ => return some .decompiled
      | .ok () => return none

/-- Preparing a case in two directories comes to the same: both variants are built, or the
first that is not is reported with the same diagnostics. -/
inductive SamePreparation (inside : String → List Variant → σ → Prop)
    (alike : String → String → σ → σ → Prop) (case : ReferenceCase) (w w' : String) :
    Option Variant → Preparation × σ → Preparation × σ → Prop
  | ready {t t' : σ} (hmatched : Matched inside alike [.decompiled, .original] w w' t t') :
      SamePreparation inside alike case w w' none
        (.ready ⟨case, executable .original w, executable .decompiled w⟩, t)
        (.ready ⟨case, executable .original w', executable .decompiled w'⟩, t')
  | failure {t t' : σ} {v : Variant} {text : String} {vs : List Variant} (hleft : inside w vs t)
      (hright : inside w' vs t') :
      SamePreparation inside alike case w w' (some v) (.failure v text, t) (.failure v text, t')

theorem run_firstUnbuilt? {config : Config} {pair : CasePair} {t : σ}
    (hdriver : Gives (buildDriver bench config pair.case w) s () t) :
    ((firstUnbuilt? bench config pair w).run s).1 =
      match (compileAndLink bench .original pair.original w).run t with
      | (.error _, _) => some .original
      | (.ok (), u) =>
          match (compileAndLink bench .decompiled pair.decompiled w).run u with
          | (.error _, _) => some .decompiled
          | (.ok (), _) => none := by
  unfold firstUnbuilt?
  rw [StateT.run_bind, hdriver]
  change (StateT.run (compileAndLink bench .original pair.original w >>= _) t).1 = _
  rw [StateT.run_bind]
  obtain ⟨original, u⟩ := (compileAndLink bench .original pair.original w).run t
  cases original with
  | error fault => rfl
  | ok _ =>
      change (StateT.run (compileAndLink bench .decompiled pair.decompiled w >>= _) u).1 = _
      rw [StateT.run_bind]
      dsimp only
      obtain ⟨decompiled, x⟩ := (compileAndLink bench .decompiled pair.decompiled w).run u
      cases decompiled with
      | error fault => rfl
      | ok _ => rfl

section

variable {config : Config} {pair : CasePair} {text : String} {t u x : σ}

theorem gives_prepare_of_original
    (hdriver : Gives (buildDriver bench config pair.case w) s () t)
    (horiginal : Gives (buildVariant bench .original pair.original w) t (.error text) u) :
    Gives (prepare bench config pair w) s (.failure .original text) u :=
  gives_bind_iff.2 ⟨(), t, hdriver, gives_bind_iff.2 ⟨_, u, horiginal, gives_pure _ u⟩⟩

theorem gives_prepare_of_decompiled
    (hdriver : Gives (buildDriver bench config pair.case w) s () t)
    (horiginal : (compileAndLink bench .original pair.original w).run t = (.ok (), u))
    (hdecompiled : Gives (buildVariant bench .decompiled pair.decompiled w) u (.error text) x) :
    Gives (prepare bench config pair w) s (.failure .decompiled text) x :=
  gives_bind_iff.2 ⟨(), t, hdriver, gives_bind_iff.2 ⟨_, u, gives_buildVariant_of_ok horiginal,
    gives_bind_iff.2 ⟨_, x, hdecompiled, gives_pure _ x⟩⟩⟩

theorem gives_prepare_of_ok
    (hdriver : Gives (buildDriver bench config pair.case w) s () t)
    (horiginal : (compileAndLink bench .original pair.original w).run t = (.ok (), u))
    (hdecompiled : (compileAndLink bench .decompiled pair.decompiled w).run u = (.ok (), x)) :
    Gives (prepare bench config pair w) s
      (.ready ⟨pair.case, executable .original w, executable .decompiled w⟩) x :=
  gives_bind_iff.2 ⟨(), t, hdriver, gives_bind_iff.2 ⟨_, u, gives_buildVariant_of_ok horiginal,
    gives_bind_iff.2 ⟨_, x, gives_buildVariant_of_ok hdecompiled, gives_pure _ x⟩⟩⟩

end

/-- Preparing a case comes to the same in two matched directories, and reports the first
variant that is not built. -/
theorem exists_gives_prepare (hdep : bench.Dependable DriverReport.Quiet ready inside)
    (hcons : bench.Consistent alike) (hmatched : Matched inside alike [] w w' s s')
    (config : Config) (pair : CasePair) :
    ∃ unbuilt prepared prepared' t t', Gives (prepare bench config pair w) s prepared t ∧
      Gives (prepare bench config pair w') s' prepared' t' ∧
      ((firstUnbuilt? bench config pair w).run s).1 = unbuilt ∧
      ((firstUnbuilt? bench config pair w').run s').1 = unbuilt ∧
      SamePreparation inside alike pair.case w w' unbuilt (prepared, t) (prepared', t') := by
  obtain ⟨t, t', hdriver, hdriver', hready⟩ :=
    exists_gives_buildDriver hdep hcons hmatched config pair.case
  obtain ⟨original, original', u, u', hu, hu', hanswered, hsame, hinside, hinside', hbuilt⟩ :=
    run_compileAndLink hdep hcons hready .original pair.original
  rw [run_firstUnbuilt? hdriver, run_firstUnbuilt? hdriver', hu, hu']
  cases hsame with
  | unanswered hleft _ => exact absurd hanswered hleft
  | failed hmasked =>
      have hleft := gives_buildVariant_of_failed hu rfl
      have hright := gives_buildVariant_of_failed hu' hmasked.symm
      exact ⟨_, _, _, _, _, gives_prepare_of_original hdriver hleft,
        gives_prepare_of_original hdriver' hright, rfl, rfl,
        .failure (hdep.named w _ u hinside) (hdep.named w' _ u' hinside')⟩
  | done halike =>
      obtain ⟨decompiled, decompiled', x, x', hx, hx', hanswered, hsame, hinside, hinside', hall⟩ :=
        run_compileAndLink hdep hcons (hbuilt rfl) .decompiled pair.decompiled
      dsimp only
      rw [hx, hx']
      cases hsame with
      | unanswered hleft _ => exact absurd hanswered hleft
      | failed hmasked =>
          have hleft := gives_buildVariant_of_failed hx rfl
          have hright := gives_buildVariant_of_failed hx' hmasked.symm
          exact ⟨_, _, _, _, _, gives_prepare_of_decompiled hdriver hu hleft,
            gives_prepare_of_decompiled hdriver' hu' hright, rfl, rfl,
            .failure (hdep.named w _ x hinside) (hdep.named w' _ x' hinside')⟩
      | done _ =>
          exact ⟨_, _, _, _, _, gives_prepare_of_ok hdriver hu hx,
            gives_prepare_of_ok hdriver' hu' hx', rfl, rfl, .ready (hall rfl)⟩

theorem exists_ofOutcome (sig : Signature) (guard : Nat) (values : List ArgValue)
    {outcome : Outcome} (haccepts : ¬ DriverReport.Refuses outcome.stdout) :
    ∃ execution, Execution.ofOutcome sig guard values outcome = .ok execution := by
  unfold Execution.ofOutcome
  split
  · next hbad => exact absurd (DriverReport.refuses_of_read hbad) haccepts
  · exact ⟨_, rfl⟩
  · split <;> exact ⟨_, rfl⟩

/-- Once the program has ended, its outcome is all that counts. -/
theorem run_execute {config : Config} {sig : Signature} {program : String}
    {values : List ArgValue} {input : List Char} {outcome : Outcome} {t : σ}
    (hlaunch : (bench.launch program (Text.utf8 input) (limits config)).run s = (.ok outcome, t)) :
    (ExceptT.run (execute bench config sig program values input)).run s =
      (Execution.ofOutcome sig config.guardBytes values outcome, t) := by
  have hperform : (ExceptT.run (perform (.launch program)
      (bench.launch program (Text.utf8 input) (limits config)))).run s = (.ok outcome, t) :=
    gives_perform hlaunch
  rw [execute, ExceptT.run_bind, StateT.run_bind, hperform]
  rfl

theorem gives_execute {config : Config} {sig : Signature} {program : String}
    {values : List ArgValue} {input : List Char} {outcome : Outcome} {execution : Execution}
    {t : σ}
    (hlaunch : (bench.launch program (Text.utf8 input) (limits config)).run s = (.ok outcome, t))
    (hshown : Execution.ofOutcome sig config.guardBytes values outcome = .ok execution) :
    Gives (execute bench config sig program values input) s execution t := by
  rw [Gives, run_execute hlaunch, hshown]

/-- A variant that is built is run to its end, and does not refuse its input. -/
theorem exists_run_launch (hdep : bench.Dependable DriverReport.Quiet ready inside)
    (hinside : inside w vs s) {v : Variant} (hv : v ∈ vs) (input : Bytes) (limits : Limits) :
    ∃ outcome t, (bench.launch (executable v w) input limits).run s = (.ok outcome, t) ∧
      inside w vs t ∧ ¬ DriverReport.Refuses outcome.stdout := by
  obtain ⟨answer, t, ht, hinside, hstarts⟩ := hdep.started w vs s v input limits hinside
  obtain ⟨process, rfl, hwatched, hquiet⟩ := hstarts hv
  obtain ⟨ending, hending⟩ := Process.exists_supervise hwatched limits.timeoutNanos
  refine ⟨⟨ending, process.printed.take Process.captureLimit⟩, t, ?_, hinside, hquiet⟩
  rw [run_launch ht]
  exact congrArg (·, t) hending

/-- A variant that is built shows the same in two matched directories. -/
theorem exists_gives_execute (hdep : bench.Dependable DriverReport.Quiet ready inside)
    (hcons : bench.Consistent alike) (hmatched : Matched inside alike vs w w' s s')
    (config : Config) (sig : Signature) {v : Variant} (hv : v ∈ vs) (values : List ArgValue)
    (input : List Char) :
    ∃ execution t t', Gives (execute bench config sig (executable v w) values input) s execution t ∧
      Gives (execute bench config sig (executable v w') values input) s' execution t' ∧
      Matched inside alike vs w w' t t' := by
  obtain ⟨outcome, t, ht, hinside, haccepts⟩ :=
    exists_run_launch hdep hmatched.left hv (Text.utf8 input) (limits config)
  obtain ⟨outcome', t', ht', hinside', _⟩ :=
    exists_run_launch hdep hmatched.right hv (Text.utf8 input) (limits config)
  obtain ⟨hsame, halike⟩ :=
    hcons.launched w w' s s' v (Text.utf8 input) (limits config) hmatched.alike
  rw [ht, ht'] at hsame halike
  cases hsame
  obtain ⟨execution, hshown⟩ := exists_ofOutcome sig config.guardBytes values haccepts
  exact ⟨execution, t, t', gives_execute ht hshown, gives_execute ht' hshown, hinside, hinside',
    halike⟩

theorem gives_run {config : Config} {case : ReferenceCase} {values : List ArgValue}
    {text : List Char} {original decompiled : Execution} {t u : σ}
    (hencode : Exchange.encode case.signature values = .ok text)
    (horiginal : Gives (execute bench config case.signature (executable .original w) values text)
      s original t)
    (hdecompiled : Gives (execute bench config case.signature (executable .decompiled w) values
      text) t decompiled u) :
    Gives (run bench config ⟨case, executable .original w, executable .decompiled w⟩ values) s
      ⟨original, decompiled⟩ u := by
  have hinput : Gives (ExceptT.mk (pure ((Exchange.encode case.signature values).mapError
      TrialError.exchange)) : Trial σ (List Char)) s text s := by
    rw [hencode]
    rfl
  exact gives_bind_iff.2 ⟨text, s, hinput, gives_bind_iff.2 ⟨original, t, horiginal,
    gives_bind_iff.2 ⟨decompiled, u, hdecompiled, gives_pure _ u⟩⟩⟩

/-- Both variants are run on arguments that can be encoded. -/
theorem exists_gives_run (hdep : bench.Dependable DriverReport.Quiet ready inside)
    (hcons : bench.Consistent alike)
    (hmatched : Matched inside alike [.decompiled, .original] w w' s s') (config : Config)
    (case : ReferenceCase) {values : List ArgValue} {text : List Char}
    (hencode : Exchange.encode case.signature values = .ok text) :
    ∃ shown t t',
      Gives (run bench config ⟨case, executable .original w, executable .decompiled w⟩ values) s
        shown t ∧
      Gives (run bench config ⟨case, executable .original w', executable .decompiled w'⟩ values) s'
        shown t' ∧
      Matched inside alike [.decompiled, .original] w w' t t' := by
  obtain ⟨original, t, t', ht, ht', hfirst⟩ :=
    exists_gives_execute hdep hcons hmatched config case.signature
      (v := .original) (by simp) values text
  obtain ⟨decompiled, u, u', hu, hu', hsecond⟩ :=
    exists_gives_execute hdep hcons hfirst config case.signature
      (v := .decompiled) (by simp) values text
  exact ⟨⟨original, decompiled⟩, u, u', gives_run hencode ht hu, gives_run hencode ht' hu', hsecond⟩

end Trial

end Counterpart
