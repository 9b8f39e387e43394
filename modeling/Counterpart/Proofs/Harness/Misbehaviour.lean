/-
Runs on a bench on which only the variants misbehave.  Such a run is never called off: every
argument set of every case has its entry, which says how what the variants show compares, and
what the variants of one case do shows in the entries of that case alone.  Of what they print
only the bytes that are kept may not refuse the input.
-/
import Counterpart.Proofs.Exchange.RoundTrip
import Counterpart.Proofs.Forall
import Counterpart.Proofs.Generate.Conform
import Counterpart.Proofs.Harness.Interleaving
import Counterpart.Proofs.Rehearsal.Dependable
import Counterpart.Proofs.Text.Blank

namespace Counterpart

namespace Harness

open Bench Trial

variable {σ : Type}

/-- Whether an entry is the one of an argument set of a case. -/
structure EntryOf (case : ReferenceCase) (set : ArgumentSet) (entry : VerdictEntry) : Prop where
  case_eq : entry.case = case.name
  category_eq : entry.category = case.category
  setIndex_eq : entry.setIndex = set.index
  provenance_eq : entry.provenance = set.provenance
  arguments_eq : set.text? = some entry.arguments.toList

/-- What both variants of a case show on some argument sets, one after another. -/
inductive Shown (bench : Bench σ) (config : Config) (prepared : Prepared) :
    List ArgumentSet → σ → List ExecutionPair → σ → Prop
  | nil (s : σ) : Shown bench config prepared [] s [] s
  | cons {set : ArgumentSet} {sets : List ArgumentSet} {pair : ExecutionPair}
      {shown : List ExecutionPair} {s t u : σ}
      (hfirst : Gives (Trial.run bench config prepared set.values) s pair t)
      (hrest : Shown bench config prepared sets t shown u) :
      Shown bench config prepared (set :: sets) s (pair :: shown) u

/-- Whether the verdict and the detail of an entry are those of the comparison of what the
variants show. -/
def Judges (config : Config) (case : ReferenceCase) (shown : ExecutionPair)
    (entry : VerdictEntry) : Prop :=
  compare (config.toleranceFor case) shown.original shown.decompiled =
    ⟨entry.verdict, entry.detail⟩

/-- What the entries of a case tell in a work directory: of the first variant that is not built
all the same, and if both are built, how what they show on each argument set compares. -/
inductive Tell (bench : Bench σ) (config : Config) (case : CasePair × List ArgumentSet)
    (w : String) (s : σ) (entries : List VerdictEntry) : Prop
  | unbuilt {v : Variant} {text : String} {t : σ}
      (hfirst : ((firstUnbuilt? bench config case.1 w).run s).1 = some v)
      (hprepare : Gives (prepare bench config case.1 w) s (.failure v text) t)
      (hentries : ∀ e ∈ entries, e.verdict = .compileFailure ∧
        e.detail = some (v.label ++ " variant: " ++ keptDiagnostics text))
  | built {prepared : Prepared} {shown : List ExecutionPair} {t u : σ}
      (hfirst : ((firstUnbuilt? bench config case.1 w).run s).1 = none)
      (hprepare : Gives (prepare bench config case.1 w) s (.ready prepared) t)
      (hshown : Shown bench config prepared case.2 t shown u)
      (hentries : List.Forall₂ (Judges config case.1.case) shown entries)

/-- Whether the argument sets of a case conform to its signature. -/
def Suits (case : CasePair × List ArgumentSet) : Prop :=
  ∃ cap, ∀ set ∈ case.2,
    List.Forall₂ (fun p v => ArgValue.Conforms cap p.ty v) case.1.case.signature.params set.values

/-- The entries of a case: one for each argument set in their order, and they tell what happened
in a directory of the case. -/
structure Reported (bench : Bench σ) (config : Config) (ready : σ → Prop)
    (case : CasePair × List ArgumentSet) (entries : List VerdictEntry) : Prop where
  each : List.Forall₂ (EntryOf case.1.case) case.2 entries
  tell : ∃ s w t, ready s ∧ bench.openWorkdir.run s = (.ok w, t) ∧
    Tell bench config case w t entries

theorem entryOf_ofSet {case : ReferenceCase} {set : ArgumentSet} {text : List Char}
    (htext : set.text? = some text) (verdict : Verdict) (detail : Option String) :
    EntryOf case set (.ofSet case set verdict detail) := by
  refine ⟨rfl, rfl, rfl, rfl, ?_⟩
  rw [VerdictEntry.ofSet, htext, Option.getD_some, String.toList_ofList]

section

variable {bench : Bench σ} {ready : σ → Prop} {inside : String → List Variant → σ → Prop}
  {alike : String → String → σ → σ → Prop} {config : Config} {pair : CasePair}
  {sets : List ArgumentSet} {entries : List VerdictEntry} {w w' : String} {s s' t t' u : σ}

/-- The entry of an argument set, from running both variants on it. -/
def setEntry (bench : Bench σ) (config : Config) (case : ReferenceCase) (workdir : String)
    (set : ArgumentSet) : Trial σ VerdictEntry := do
  return entryOf config case set
    (← Trial.run bench config ⟨case, executable .original workdir, executable .decompiled workdir⟩
      set.values)

theorem gives_entriesIn_of_failure {v : Variant} {text : String}
    (hprepare : Gives (prepare bench config pair w) s (.failure v text) t) :
    Gives (entriesIn bench config pair sets w) s (failureEntries pair.case v text sets) t :=
  gives_bind_iff.2 ⟨_, t, hprepare, gives_pure _ t⟩

theorem gives_entriesIn_of_ready
    (hprepare : Gives (prepare bench config pair w) s
      (.ready ⟨pair.case, executable .original w, executable .decompiled w⟩) t)
    (hrest : Gives (sets.mapM (setEntry bench config pair.case w)) t entries u) :
    Gives (entriesIn bench config pair sets w) s entries u :=
  gives_bind_iff.2 ⟨_, t, hprepare, hrest⟩

theorem failureEntries_each (v : Variant) (text : String) (hsuits : Suits (pair, sets)) :
    List.Forall₂ (EntryOf pair.case) sets (failureEntries pair.case v text sets) := by
  obtain ⟨cap, hconforms⟩ := hsuits
  rw [failureEntries, List.forall₂_map_right_iff, List.forall₂_same]
  intro set hset
  obtain ⟨line, hline⟩ := ArgumentSet.exists_text? (hconforms set hset)
  exact entryOf_ofSet hline _ _

theorem failureEntries_tell (case : ReferenceCase) (v : Variant) (text : String)
    (sets : List ArgumentSet) : ∀ e ∈ failureEntries case v text sets,
      e.verdict = .compileFailure ∧
        e.detail = some (v.label ++ " variant: " ++ keptDiagnostics text) := by
  intro e he
  obtain ⟨set, _, rfl⟩ := List.mem_map.1 he
  exact ⟨rfl, rfl⟩

theorem gives_mapM_cons {case : ReferenceCase} {set : ArgumentSet} {shown : ExecutionPair}
    (hrun : Gives (Trial.run bench config
      ⟨case, executable .original w, executable .decompiled w⟩ set.values) s shown t)
    (hrest : Gives (sets.mapM (setEntry bench config case w)) t entries u) :
    Gives ((set :: sets).mapM (setEntry bench config case w)) s
      (entryOf config case set shown :: entries) u := by
  rw [List.mapM_cons]
  exact gives_bind_iff.2 ⟨_, t, gives_bind_iff.2 ⟨shown, t, hrun, gives_pure _ t⟩,
    gives_bind_iff.2 ⟨entries, u, hrest, gives_pure _ u⟩⟩

/-- The argument sets are run one after another in two matched directories, show the same there
and come to the same entries. -/
theorem exists_gives_mapM (hdep : bench.Dependable DriverReport.Quiet ready inside)
    (hcons : bench.Consistent alike)
    (hmatched : Matched inside alike [.decompiled, .original] w w' s s')
    (hsuits : Suits (pair, sets)) :
    ∃ entries shown t t', Gives (sets.mapM (setEntry bench config pair.case w)) s entries t ∧
      Gives (sets.mapM (setEntry bench config pair.case w')) s' entries t' ∧
      Matched inside alike [.decompiled, .original] w w' t t' ∧
      List.Forall₂ (EntryOf pair.case) sets entries ∧
      List.Forall₂ (Judges config pair.case) shown entries ∧
      Shown bench config ⟨pair.case, executable .original w, executable .decompiled w⟩ sets s
        shown t ∧
      Shown bench config ⟨pair.case, executable .original w', executable .decompiled w'⟩ sets s'
        shown t' := by
  obtain ⟨cap, hconforms⟩ := hsuits
  induction sets generalizing s s' with
  | nil =>
      exact ⟨[], [], s, s', gives_pure _ s, gives_pure _ s', hmatched, .nil, .nil, .nil s, .nil s'⟩
  | cons set sets ih =>
      have hset := hconforms set List.mem_cons_self
      obtain ⟨text, htext⟩ := Exchange.exists_encode hset
      obtain ⟨line, hline⟩ := ArgumentSet.exists_text? hset
      obtain ⟨first, t, t', ht, ht', hrun⟩ :=
        exists_gives_run hdep hcons hmatched config pair.case htext
      obtain ⟨entries, shown, u, u', hu, hu', hrest, heach, hjudged, hshown, hshown'⟩ :=
        ih hrun fun other hother => hconforms other (List.mem_cons_of_mem _ hother)
      exact ⟨entryOf config pair.case set first :: entries, first :: shown, u, u',
        gives_mapM_cons ht hu, gives_mapM_cons ht' hu', hrest,
        .cons (entryOf_ofSet hline _ _) heach, .cons rfl hjudged, .cons ht hshown,
        .cons ht' hshown'⟩

/-- A case comes to the same entries in two matched directories. -/
theorem exists_gives_entriesIn (hdep : bench.Dependable DriverReport.Quiet ready inside)
    (hcons : bench.Consistent alike) (hmatched : Matched inside alike [] w w' s s')
    (config : Config) (hsuits : Suits (pair, sets)) :
    ∃ entries t t', Gives (entriesIn bench config pair sets w) s entries t ∧
      Gives (entriesIn bench config pair sets w') s' entries t' ∧
      (∃ vs, inside w vs t) ∧ (∃ vs, inside w' vs t') ∧
      List.Forall₂ (EntryOf pair.case) sets entries ∧
      Tell bench config (pair, sets) w s entries ∧
      Tell bench config (pair, sets) w' s' entries := by
  obtain ⟨unbuilt, prepared, prepared', t, t', ht, ht', hunbuilt, hunbuilt', hsame⟩ :=
    exists_gives_prepare hdep hcons hmatched config pair
  cases hsame with
  | failure hleft hright =>
      exact ⟨_, t, t', gives_entriesIn_of_failure ht, gives_entriesIn_of_failure ht',
        ⟨_, hleft⟩, ⟨_, hright⟩, failureEntries_each _ _ hsuits,
        .unbuilt hunbuilt ht (failureEntries_tell _ _ _ _),
        .unbuilt hunbuilt' ht' (failureEntries_tell _ _ _ _)⟩
  | ready hmatched =>
      obtain ⟨entries, shown, u, u', hu, hu', hmatched, heach, hjudged, hshown, hshown'⟩ :=
        exists_gives_mapM hdep hcons hmatched hsuits
      exact ⟨entries, u, u', gives_entriesIn_of_ready ht hu, gives_entriesIn_of_ready ht' hu',
        ⟨_, hmatched.left⟩, ⟨_, hmatched.right⟩, heach, .built hunbuilt ht hshown hjudged,
        .built hunbuilt' ht' hshown' hjudged⟩

/-- A case comes to what it comes to in a new directory. -/
theorem run_runCase {result : Except TrialError (List VerdictEntry)}
    (hopen : bench.openWorkdir.run s = (.ok w, t))
    (hentries : (ExceptT.run (entriesIn bench config pair sets w)).run t = (result, u)) :
    (runCase bench config pair sets).run s =
      (result.mapError (.trial pair.case.name), ((bench.closeWorkdir w).run u).2) := by
  unfold runCase
  rw [StateT.run_bind, hopen]
  change StateT.run (ExceptT.run (entriesIn bench config pair sets w) >>= _) t = _
  rw [StateT.run_bind, hentries]
  rfl

theorem inside_of_openWorkdir (hdep : bench.Dependable DriverReport.Quiet ready inside)
    (hs : ready s) (hopen : bench.openWorkdir.run s = (.ok w, t)) : inside w [] t := by
  obtain ⟨w', t', hopen', hinside⟩ := hdep.opened s hs
  cases hopen.symm.trans hopen'
  exact hinside

/-- A case comes to the same entries in two new directories in the same condition. -/
theorem exists_runCase (hdep : bench.Dependable DriverReport.Quiet ready inside)
    (hcons : bench.Consistent alike)
    (hs : ready s) (hs' : ready s') (hopen : bench.openWorkdir.run s = (.ok w, t))
    (hopen' : bench.openWorkdir.run s' = (.ok w', t')) (halike : alike w w' t t')
    (config : Config) (hsuits : Suits (pair, sets)) :
    ∃ entries u u', (runCase bench config pair sets).run s = (.ok entries, u) ∧
      (runCase bench config pair sets).run s' = (.ok entries, u') ∧ ready u ∧
      List.Forall₂ (EntryOf pair.case) sets entries ∧
      Tell bench config (pair, sets) w t entries ∧
      Tell bench config (pair, sets) w' t' entries := by
  have hmatched : Matched inside alike [] w w' t t' :=
    ⟨inside_of_openWorkdir hdep hs hopen, inside_of_openWorkdir hdep hs' hopen', halike⟩
  obtain ⟨entries, u, u', hu, hu', ⟨vs, hinside⟩, _, heach, htell, htell'⟩ :=
    exists_gives_entriesIn hdep hcons hmatched config hsuits
  exact ⟨entries, _, _, run_runCase hopen hu, run_runCase hopen' hu', hdep.closed w vs u hinside,
    heach, htell, htell'⟩

theorem exists_reported (hdep : bench.Dependable DriverReport.Quiet ready inside)
    (hs : ready s) (config : Config) (hsuits : Suits (pair, sets)) :
    ∃ entries u, (runCase bench config pair sets).run s = (.ok entries, u) ∧ ready u ∧
      Reported bench config ready (pair, sets) entries := by
  obtain ⟨w, t, hopen, hinside⟩ := hdep.opened s hs
  -- The directory is followed beside itself, so that nothing is asked of other directories.
  obtain ⟨entries, u, _, hu, _, hready, heach, htell, _⟩ :=
    exists_runCase hdep hdep.consistent hs hs hopen hopen ⟨rfl, rfl, [], hinside⟩ config hsuits
  exact ⟨entries, u, hu, hready, heach, s, w, t, hs, hopen, htell⟩

/-- On an isolated bench a case comes to the same entries whenever it is run, and they tell what
happens in whichever directory is asked. -/
theorem exists_runCase_isolated (hdep : bench.Dependable DriverReport.Quiet ready inside)
    (hiso : bench.Isolated ready alike) (hs : ready s) (hs' : ready s')
    (hopen' : bench.openWorkdir.run s' = (.ok w', t')) (config : Config)
    (hsuits : Suits (pair, sets)) :
    ∃ entries, ((runCase bench config pair sets).run s).1 = .ok entries ∧
      ((runCase bench config pair sets).run s').1 = .ok entries ∧
      Tell bench config (pair, sets) w' t' entries := by
  obtain ⟨w, t, hopen, _⟩ := hdep.opened s hs
  have halike := hiso.opened s s' w w' t t' hs hs' hopen hopen'
  obtain ⟨entries, u, u', hu, hu', _, _, _, htell⟩ :=
    exists_runCase hdep hiso.toConsistent hs hs' hopen hopen' halike config hsuits
  exact ⟨entries, by rw [hu], by rw [hu'], htell⟩

theorem ComesTo.unique (hdep : bench.Dependable DriverReport.Quiet ready inside)
    (hiso : bench.Isolated ready alike) (hsuits : Suits (pair, sets))
    {entries' : List VerdictEntry} (hcomes : ComesTo bench config ready (pair, sets) entries)
    (hcomes' : ComesTo bench config ready (pair, sets) entries') : entries = entries' := by
  obtain ⟨s, hs, hentries⟩ := hcomes
  obtain ⟨s', hs', hentries'⟩ := hcomes'
  obtain ⟨w', t', hopen', _⟩ := hdep.opened s' hs'
  obtain ⟨common, hcommon, hcommon', _⟩ :=
    exists_runCase_isolated hdep hiso hs hs' hopen' config hsuits
  have hleft : entries = common := Except.ok.inj (hentries.symm.trans hcommon)
  have hright : entries' = common := Except.ok.inj (hentries'.symm.trans hcommon')
  rw [hleft, hright]

theorem ComesTo.tell (hdep : bench.Dependable DriverReport.Quiet ready inside)
    (hiso : bench.Isolated ready alike) (hsuits : Suits (pair, sets))
    (hcomes : ComesTo bench config ready (pair, sets) entries)
    (hs' : ready s') (hopen' : bench.openWorkdir.run s' = (.ok w', t')) :
    Tell bench config (pair, sets) w' t' entries := by
  obtain ⟨s, hs, hentries⟩ := hcomes
  obtain ⟨common, hcommon, _, htell⟩ :=
    exists_runCase_isolated hdep hiso hs hs' hopen' config hsuits
  cases hcommon.symm.trans hentries
  exact htell

variable {pairs : List CasePair} {seed count : Nat} {generated : List (List ArgumentSet)}

theorem forall₂_of_generateAll (hgenerated : generateAll config pairs seed count = .ok generated) :
    List.Forall₂ (fun pair sets =>
      Generate.setsFor config.generator pair.case seed count = .ok sets) pairs generated :=
  (mapM_eq_ok_iff.1 hgenerated).imp fun _ _ => mapError_eq_ok_iff.1

theorem suits_of_generateAll (hvalid : ∀ pair ∈ pairs, pair.case.signature.validate = .ok ())
    (hgenerated : generateAll config pairs seed count = .ok generated) :
    ∀ case ∈ pairs.zip generated, Suits case := by
  rintro ⟨pair, sets⟩ hcase
  have hsets := List.forall₂_zip (forall₂_of_generateAll hgenerated) hcase
  refine ⟨config.generator.maxBufferElems, ?_⟩
  intro set hset
  exact Generate.conforms_of_mem_setsFrom (hvalid pair (List.of_mem_zip hcase).1) hsets hset

theorem exists_outcome (hdep : bench.Dependable DriverReport.Quiet ready inside)
    {cases : List (CasePair × List ArgumentSet)} (hsuits : ∀ case ∈ cases, Suits case)
    {events : List (PoolEvent HarnessError (List VerdictEntry))}
    {last : Pool HarnessError (List VerdictEntry)}
    (hinter : Interleaved bench config ready cases events last) :
    ∃ blocks, last.outcome = .ok blocks ∧
      List.Forall₂ (ComesTo bench config ready) cases blocks := by
  apply hinter.outcome_ok
  intro case hcase s hs
  obtain ⟨entries, u, hu, _⟩ := exists_reported hdep hs config (hsuits case hcase)
  exact ⟨entries, by rw [hu]⟩

theorem exists_runCases (hdep : bench.Dependable DriverReport.Quiet ready inside) (config : Config)
    {cases : List (CasePair × List ArgumentSet)} (hsuits : ∀ case ∈ cases, Suits case)
    (hs : ready s) :
    ∃ blocks, ((runCases bench config cases).run s).1 = .ok blocks ∧
      List.Forall₂ (ComesTo bench config ready) cases blocks := by
  have hkeep : ∀ case ∈ cases, ∀ s, ready s →
      ready ((runCase bench config case.1 case.2).run s).2 := by
    intro case hcase s hs
    obtain ⟨entries, u, hu, hready, _⟩ := exists_reported hdep hs config (hsuits case hcase)
    rw [hu]
    exact hready
  obtain ⟨events, last, hinter, houtcome⟩ :=
    exists_interleaved_runCases ready bench config hkeep s hs
  rw [houtcome]
  exact exists_outcome hdep hsuits hinter

/-- Behind the probe a run whose arguments are generated comes to what its cases come to. -/
theorem run_run {version : String} {result : Except HarnessError (List (List VerdictEntry))}
    (hprobe : bench.probe.run s = (.ok version, t))
    (hgenerated : generateAll config pairs seed count = .ok generated)
    (hcases : (runCases bench config (pairs.zip generated)).run t = (result, u)) :
    (ExceptT.run (run bench config pairs seed count)).run s =
      (result.map fun blocks => ⟨version, blocks.flatten⟩, u) := by
  have hstart : Gives (ExceptT.mk do return (← bench.probe).mapError HarnessError.toolchain :
      ExceptT HarnessError (StateM σ) String) s version t := by
    change StateT.run (bench.probe >>= _) s = _
    rw [StateT.run_bind, hprobe]
    rfl
  have hsets : Gives (ExceptT.mk (pure (generateAll config pairs seed count)) :
      ExceptT HarnessError (StateM σ) _) t generated t := by
    rw [hgenerated]
    rfl
  cases result with
  | error error =>
      exact fails_bind_iff.2 (.inr ⟨version, t, hstart, fails_bind_iff.2 (.inr
        ⟨generated, t, hsets, fails_bind_iff.2 (.inl hcases)⟩)⟩)
  | ok blocks =>
      exact gives_bind_iff.2 ⟨version, t, hstart, gives_bind_iff.2 ⟨generated, t, hsets,
        gives_bind_iff.2 ⟨blocks, u, hcases, gives_pure _ u⟩⟩⟩

/-- A run over pairs whose arguments are generated is never called off. -/
theorem exists_gives_summary (hdep : bench.Dependable DriverReport.Quiet ready inside)
    (hvalid : ∀ pair ∈ pairs, pair.case.signature.validate = .ok ())
    (hgenerated : generateAll config pairs seed count = .ok generated) (hs : ready s) :
    ∃ version blocks t,
      Gives (run bench config pairs seed count) s ⟨version, blocks.flatten⟩ t ∧
      List.Forall₂ (ComesTo bench config ready) (pairs.zip generated) blocks := by
  obtain ⟨version, t, hprobe, hready⟩ := hdep.probed s hs
  obtain ⟨blocks, hblocks, hall⟩ :=
    exists_runCases hdep config (suits_of_generateAll hvalid hgenerated) hready
  exact ⟨version, blocks, _, run_run hprobe hgenerated (Prod.ext hblocks rfl), hall⟩

section

variable {cases : List (CasePair × List ArgumentSet)} {blocks blocks' : List (List VerdictEntry)}

end

end

namespace Misbehaving

/-- A case of one number. -/
def pair (name : String) : CasePair :=
  ⟨⟨⟨name, [⟨"n", .scalar (.int .w4 true), none, false, []⟩], .void⟩, .arithmetic, [], name, []⟩,
    "corpus/" ++ name, "decompiled/" ++ name⟩

/-- One decompiled source is not compiled, another one crashes. -/
def script (source : String) : Script :=
  if source = "decompiled/f" then ⟨some (.stderr "error"), none, false, []⟩
  else if source = "decompiled/g" then ⟨none, none, false, [⟨[], .signaled 11, false⟩]⟩
  else .plain

def prepared : Rehearsal := .start "cc" (.ok "cc 1.0") "w" .plain script

def config : Config := .default ⟨fun _ => none, 2⟩

theorem orderly_prepared : prepared.Orderly DriverReport.Quiet := by
  apply Rehearsal.orderly_start Rehearsal.quiet_nil
  intro source
  unfold script
  split
  · exact ⟨nofun, nofun, rfl, fun _ _ => Rehearsal.quiet_nil⟩
  · split
    · exact Rehearsal.permitted_single fun _ => Rehearsal.quiet_nil
    · exact Rehearsal.permitted_plain Rehearsal.quiet_nil

theorem exists_generated : ∃ sets sets', sets.length = 2 ∧ sets'.length = 2 ∧
    generateAll config [pair "f", pair "g"] 0 2 = .ok [sets, sets'] :=
  ⟨_, _, rfl, rfl, rfl⟩

end Misbehaving

section

variable {bench : Bench σ} {config : Config} {pair : CasePair} {set : ArgumentSet}
  {sets : List ArgumentSet} {fault : TrialError} {error : HarnessError} {w : String} {s t u : σ}

end

namespace Cut

open Text

/-- A line of `n` characters, and the last line behind it. -/
def text (n : Nat) (last : List Char) : List Char :=
  List.replicate n 'a' ++ '\n' :: last

/-- An output that ends in a marked line with one word, which is no refusal. -/
def output (n : Nat) : Bytes :=
  utf8 (text n "@@EQ BADINPUTX".toList)

section

variable {n : Nat} {last : List Char}

end

/-- A case without parameters. -/
def pair : CasePair :=
  ⟨⟨⟨"f", [], .void⟩, .arithmetic, [], "f", []⟩, "corpus/f", "decompiled/f"⟩

/-- The decompiled source prints something and ends well. -/
def script (printed : Bytes) (source : String) : Script :=
  if source = "decompiled/f" then ⟨none, none, false, [⟨printed, .exited 0, false⟩]⟩ else .plain

def prepared (printed : Bytes) : Rehearsal :=
  .start "cc" (.ok "cc 1.0") "w" .plain (script printed)

def config : Config := .default ⟨fun _ => none, 2⟩

theorem orderly_prepared {printed : Bytes} (hprinted : ¬ DriverReport.Refuses printed) :
    (prepared printed).Orderly (¬ DriverReport.Refuses ·) := by
  apply Rehearsal.orderly_start Rehearsal.not_refuses_nil
  intro source
  unfold script
  split
  · exact Rehearsal.permitted_single fun _ => hprinted
  · exact Rehearsal.permitted_plain Rehearsal.not_refuses_nil

theorem exists_generated :
    ∃ set : ArgumentSet, set.values = [] ∧ generateAll config [pair] 0 1 = .ok [[set]] :=
  ⟨_, rfl, rfl⟩

/-- What is left of building both variants. -/
def built (printed : Bytes) : Rehearsal :=
  ((ExceptT.run (prepare Rehearsal.bench config pair "w")).run (prepared printed)).2

end Cut

end Harness

end Counterpart
