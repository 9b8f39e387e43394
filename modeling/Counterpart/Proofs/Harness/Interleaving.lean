/-
The cases of a run under every interleaving of the workers and the receiver.  What the
cases return is left open, so the results hold whatever a case does and whenever it ends;
`runCases` is one interleaving, in which every case returns what running it returned.
-/
import Counterpart.Harness.Run
import Counterpart.Proofs.Pool.Progress
import Counterpart.Rehearsal.Bench

namespace Counterpart.Harness

variable {σ : Type}

/-- What the pool of `runCases` does for an index. -/
def runIndex (bench : Bench σ) (config : Config) (cases : List (CasePair × List ArgumentSet))
    (index : Nat) : StateM σ (Except HarnessError (List VerdictEntry)) :=
  match cases[index]? with
  | some (pair, sets) => runCase bench config pair sets
  | none => pure (.ok [])

theorem runIndex_eq (bench : Bench σ) (config : Config)
    {cases : List (CasePair × List ArgumentSet)} {index : Nat} {pair : CasePair}
    {sets : List ArgumentSet} (hcase : cases[index]? = some (pair, sets)) :
    runIndex bench config cases index = runCase bench config pair sets := by
  simp [runIndex, hcase]

/-- Running a case in some state that is `ready` comes to these entries. -/
def ComesTo (bench : Bench σ) (config : Config) (ready : σ → Prop)
    (case : CasePair × List ArgumentSet) (entries : List VerdictEntry) : Prop :=
  ∃ s, ready s ∧ ((runCase bench config case.1 case.2).run s).1 = .ok entries

/-- A complete interleaving in which every case ends as running it in some state that is
`ready` does. -/
structure Interleaved (bench : Bench σ) (config : Config) (ready : σ → Prop)
    (cases : List (CasePair × List ArgumentSet))
    (events : List (PoolEvent HarnessError (List VerdictEntry)))
    (last : Pool HarnessError (List VerdictEntry)) : Prop where
  replay : (Pool.start config.workers cases.length).replay? events = some last
  done : last.isDone = true
  ended : ∀ x ∈ (Pool.start config.workers cases.length).ran events, ∃ pair sets s,
    cases[x.1]? = some (pair, sets) ∧ ready s ∧
    ((runCase bench config pair sets).run s).1 = x.2

/-- `runCases` follows a complete interleaving, and every case is run in a state that is as
the cases leave it. -/
theorem exists_interleaved_runCases (ready : σ → Prop) (bench : Bench σ) (config : Config)
    {cases : List (CasePair × List ArgumentSet)}
    (hkeep : ∀ x ∈ cases, ∀ s, ready s → ready ((runCase bench config x.1 x.2).run s).2)
    (s : σ) (hs : ready s) :
    ∃ events last, Interleaved bench config ready cases events last ∧
      ((runCases bench config cases).run s).1 = last.outcome := by
  have hkeepIndex : ∀ index s, ready s → ready ((runIndex bench config cases index).run s).2 := by
    intro index s hs
    rcases hcase : cases[index]? with _ | x
    -- The pool is asked for no such index, but its schedule is not known here.
    · simp only [runIndex, hcase]
      exact hs
    · rw [runIndex_eq bench config hcase]
      exact hkeep x (List.mem_of_getElem? hcase) s hs
  obtain ⟨events, last, hreplay, hdone, hdrive, hran⟩ :=
    Pool.exists_replay?_drive (runIndex bench config cases) hkeepIndex
      (Pool.stepsLeft_start config.workers cases.length).le s hs
  refine ⟨events, last, ⟨hreplay, hdone, ?_⟩, ?_⟩
  · intro x hx
    obtain ⟨received, haccount⟩ :=
      (Pool.account_start config.workers cases.length).replay events hreplay
    have hindex : x.1 < cases.length := by
      have hmem := (haccount.taken_perm hdone).mem_iff.1 (List.mem_map_of_mem hx)
      have hlt := List.mem_range.1 hmem
      omega
    have hcase : cases[x.1]? = some (cases[x.1].1, cases[x.1].2) :=
      List.getElem?_eq_getElem hindex
    obtain ⟨s', hready, hs'⟩ := hran x hx
    rw [runIndex_eq bench config hcase] at hs'
    exact ⟨_, _, s', hcase, hready, hs'⟩
  · rw [← hdrive]
    rfl

theorem exists_schedule_runCases (bench : Bench σ) (config : Config)
    (cases : List (CasePair × List ArgumentSet)) (s : σ) :
    ∃ events last, (Pool.start config.workers cases.length).replay? events = some last ∧
      last.isDone = true ∧ ((runCases bench config cases).run s).1 = last.outcome ∧
      ∀ x ∈ (Pool.start config.workers cases.length).ran events, ∃ pair sets s',
        cases[x.1]? = some (pair, sets) ∧ ((runCase bench config pair sets).run s').1 = x.2 := by
  obtain ⟨events, last, hinter, houtcome⟩ :=
    exists_interleaved_runCases (fun _ => True) bench config (fun _ _ _ _ => trivial) s trivial
  refine ⟨events, last, hinter.replay, hinter.done, houtcome, ?_⟩
  intro x hx
  obtain ⟨pair, sets, s', hcase, _, hs'⟩ := hinter.ended x hx
  exact ⟨pair, sets, s', hcase, hs'⟩

/-- If no case that ran failed, an interleaving comes to what the cases come to, in their
order. -/
theorem Interleaved.outcome_of_all_ok {bench : Bench σ} {config : Config} {ready : σ → Prop}
    {cases : List (CasePair × List ArgumentSet)}
    {events : List (PoolEvent HarnessError (List VerdictEntry))}
    {last : Pool HarnessError (List VerdictEntry)}
    (hinter : Interleaved bench config ready cases events last)
    (hall : ∀ x ∈ (Pool.start config.workers cases.length).ran events,
      ∃ entries, x.2 = .ok entries) :
    ∃ blocks, last.outcome = .ok blocks ∧
      List.Forall₂ (ComesTo bench config ready) cases blocks := by
  obtain ⟨received, haccount⟩ :=
    (Pool.account_start config.workers cases.length).replay events hinter.replay
  rw [List.nil_append] at haccount
  obtain ⟨blocks, houtcome, hlength, hslots⟩ := haccount.outcome_ok hinter.done hall
  refine ⟨blocks, houtcome, List.forall₂_iff_get.2 ⟨hlength.symm, ?_⟩⟩
  intro i hi hi'
  have hran := (hslots i blocks[i]).2 (List.getElem?_eq_getElem hi')
  obtain ⟨pair, sets, s, hcase, hs, hresult⟩ := hinter.ended _ hran
  rw [List.get_eq_getElem, (List.getElem?_eq_some_iff.1 hcase).2]
  exact ⟨s, hs, hresult⟩

/-- If no case can fail, none that ran did. -/
theorem Interleaved.outcome_ok {bench : Bench σ} {config : Config} {ready : σ → Prop}
    {cases : List (CasePair × List ArgumentSet)}
    {events : List (PoolEvent HarnessError (List VerdictEntry))}
    {last : Pool HarnessError (List VerdictEntry)}
    (hinter : Interleaved bench config ready cases events last)
    (hok : ∀ x ∈ cases, ∀ s, ready s →
      ∃ entries, ((runCase bench config x.1 x.2).run s).1 = .ok entries) :
    ∃ blocks, last.outcome = .ok blocks ∧
      List.Forall₂ (ComesTo bench config ready) cases blocks := by
  apply hinter.outcome_of_all_ok
  intro x hx
  obtain ⟨pair, sets, s, hcase, hs, hresult⟩ := hinter.ended x hx
  obtain ⟨entries, hentries⟩ := hok _ (List.mem_of_getElem? hcase) s hs
  exact ⟨entries, hresult.symm.trans hentries⟩

/-- An interleaving that is not called off comes to what the cases come to, in their order. -/
theorem Interleaved.comesTo {bench : Bench σ} {config : Config} {ready : σ → Prop}
    {cases : List (CasePair × List ArgumentSet)}
    {events : List (PoolEvent HarnessError (List VerdictEntry))}
    {last : Pool HarnessError (List VerdictEntry)}
    (hinter : Interleaved bench config ready cases events last)
    {blocks : List (List VerdictEntry)} (houtcome : last.outcome = .ok blocks) :
    List.Forall₂ (ComesTo bench config ready) cases blocks := by
  obtain ⟨received, haccount⟩ :=
    (Pool.account_start config.workers cases.length).replay events hinter.replay
  rw [List.nil_append] at haccount
  have hall : ∀ x ∈ (Pool.start config.workers cases.length).ran events,
      ∃ entries, x.2 = .ok entries := by
    rintro ⟨index, result⟩ hx
    cases result with
    | ok entries => exact ⟨entries, rfl⟩
    | error e =>
        obtain ⟨_, _, _, herror⟩ := haccount.outcome_error hinter.done hx
        cases houtcome.symm.trans herror
  obtain ⟨blocks', houtcome', hcomes⟩ := hinter.outcome_of_all_ok hall
  cases houtcome.symm.trans houtcome'
  exact hcomes

/-- For every number of workers and every interleaving of their steps with those of the
receiver, once all workers have stopped and every result is received: no case was run
twice; if no case that ran failed, every case ran and the outcome lists what each of them
returned, in the order of the cases; if one failed, the outcome is an error of a case that
ran and failed.  `runCases` itself follows such an interleaving. -/
theorem runCases_of_interleaving (bench : Bench σ) (config : Config)
    (cases : List (CasePair × List ArgumentSet)) :
    (∀ (events : List (PoolEvent HarnessError (List VerdictEntry)))
        (last : Pool HarnessError (List VerdictEntry)),
      (Pool.start config.workers cases.length).replay? events = some last →
      last.isDone = true →
        let ran := (Pool.start config.workers cases.length).ran events
        (ran.map Prod.fst).Nodup ∧
        ((∀ x ∈ ran, ∃ entries, x.2 = .ok entries) →
          (ran.map Prod.fst).Perm (List.range cases.length) ∧
          ∃ results, last.outcome = .ok results ∧ results.length = cases.length ∧
            ∀ i entries, (i, .ok entries) ∈ ran ↔ results[i]? = some entries) ∧
        ((∃ x ∈ ran, ∃ error, x.2 = .error error) →
          ∃ i error, (i, .error error) ∈ ran ∧ last.outcome = .error error)) ∧
    ∀ s : σ, ∃ events last,
      (Pool.start config.workers cases.length).replay? events = some last ∧
      last.isDone = true ∧ ((runCases bench config cases).run s).1 = last.outcome ∧
      ∀ x ∈ (Pool.start config.workers cases.length).ran events, ∃ pair sets s',
        cases[x.1]? = some (pair, sets) ∧
        ((runCase bench config pair sets).run s').1 = x.2 := by
  refine ⟨?_, exists_schedule_runCases bench config cases⟩
  intro events last hreplay hdone ran
  obtain ⟨received, haccount⟩ :=
    (Pool.account_start config.workers cases.length).replay events hreplay
  rw [List.nil_append] at haccount
  refine ⟨haccount.nodup hdone, fun hok => ⟨?_, ?_⟩, ?_⟩
  · exact haccount.all_ran hdone hok
  · exact haccount.outcome_ok hdone hok
  · rintro ⟨⟨i, result⟩, hmem, error, herror⟩
    cases herror
    exact haccount.outcome_error hdone hmem

namespace Crossing

/-- A case that takes no arguments, with its sources. -/
def pair : CasePair :=
  ⟨⟨⟨"f", [], .void⟩, .arithmetic, [], "f.c", []⟩, "corpus/f.c", "decompiled/f.c"⟩

def config : Config := .default ⟨fun _ => none, 2⟩

def entry : VerdictEntry :=
  ⟨"f", .arithmetic, 0, .boundary, .equivalent, none, "#0 boundary ()"⟩

/-- Two workers take one case each, and the second case ends first. -/
def events : List (PoolEvent HarnessError (List VerdictEntry)) :=
  [.look 0, .look 1, .take 0, .take 1, .finish 1 (.ok [entry]), .send 1, .receive,
    .finish 0 (.ok []), .send 0, .look 1, .take 1, .look 0, .take 0, .receive]

def last : Pool HarnessError (List VerdictEntry) :=
  ⟨2, [.stopped, .stopped], 4, false, [], [some [], some [entry]], none⟩

end Crossing

open Crossing in
theorem runCases_of_interleaving_crossing :
    (Pool.start 2 2).replay? events = some last ∧ last.isDone = true ∧
      ∃ results, last.outcome = .ok results ∧ results.length = 2 ∧
        ∀ i entries, (i, .ok entries) ∈ (Pool.start 2 2).ran events ↔
          results[i]? = some entries := by
  have hreplay : (Pool.start 2 2).replay? events = some last := rfl
  have hdone : last.isDone = true := rfl
  have hall := (runCases_of_interleaving Rehearsal.bench config [(pair, []), (pair, [])]).1
    events last hreplay hdone
  have hok : ∀ x ∈ [(1, .ok [entry]), (0, .ok [])], ∃ entries,
      (x : Nat × Except HarnessError (List VerdictEntry)).2 = .ok entries := by
    simp
  exact ⟨hreplay, hdone, (hall.2.1 hok).2⟩

end Counterpart.Harness
