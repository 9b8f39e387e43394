/-
What any calls leave in a registry.  A call either adds its case at the end, under a name that was
free, or is refused and changes nothing; so after every call the index names the cases one by one,
no two have the same name, and each of them can be run.
-/
import Counterpart.Corpus.Registry
import Counterpart.Proofs.Counting

namespace Counterpart.Registry

/-- The registry with a case in the next place. -/
def added (registry : Registry) (case : ReferenceCase) : Registry :=
  ⟨registry.cases ++ [case], (case.name, registry.cases.length) :: registry.index⟩

@[simp] theorem added_cases (registry : Registry) (case : ReferenceCase) :
    (registry.added case).cases = registry.cases ++ [case] := rfl

@[simp] theorem names_added (registry : Registry) (case : ReferenceCase) :
    (registry.added case).names = registry.names ++ [case.name] := by
  rw [names, added_cases, List.map_append]
  rfl

theorem getElem?_names_added {registry : Registry} {case : ReferenceCase} {name : String}
    {i : Nat} : (registry.added case).names[i]? = some name ↔
      registry.names[i]? = some name ∨ i = registry.cases.length ∧ case.name = name := by
  have hlength : registry.names.length = registry.cases.length := List.length_map _
  rw [names_added, ← hlength]
  rcases Nat.lt_trichotomy i registry.names.length with hlt | rfl | hgt
  · rw [List.getElem?_append_left hlt]
    simp only [Nat.ne_of_lt hlt, false_and, or_false]
  · simp
  · have hbeyond : (registry.names ++ [case.name]).length ≤ i := by
      rw [List.length_append]
      exact hgt
    rw [List.getElem?_eq_none hbeyond, List.getElem?_eq_none (Nat.le_of_lt hgt)]
    simp only [Nat.ne_of_gt hgt, false_and, or_false]

/-- What a call can come to, and the registry it leaves. -/
inductive Submitted (registry : Registry) (case : ReferenceCase) :
    Except CorpusError Unit → Registry → Prop
  | invalid {fault : SignatureError} (hinvalid : case.signature.validate = .error fault) :
      Submitted registry case (.error (.invalidSignature case.name fault)) registry
  | taken (hvalid : case.signature.validate = .ok ())
      (htaken : (registry.index.lookup case.name).isSome) :
      Submitted registry case (.error (.duplicateName case.name)) registry
  | accepted (hvalid : case.signature.validate = .ok ())
      (hfree : ¬ (registry.index.lookup case.name).isSome) :
      Submitted registry case (.ok ()) (registry.added case)

theorem submitted_of_run {registry next : Registry} {case : ReferenceCase}
    {outcome : Except CorpusError Unit} (hrun : (submit case).run.run registry = (outcome, next)) :
    Submitted registry case outcome next := by
  unfold submit at hrun
  cases hvalidate : case.signature.validate with
  | error fault =>
      rw [hvalidate] at hrun
      cases hrun
      exact .invalid hvalidate
  | ok =>
      rw [hvalidate] at hrun
      change (if (registry.index.lookup case.name).isSome then _ else _ :
        ExceptT CorpusError (StateM Registry) Unit).run.run registry = (outcome, next) at hrun
      by_cases htaken : (registry.index.lookup case.name).isSome
      · rw [if_pos htaken] at hrun
        cases hrun
        exact .taken hvalidate htaken
      · rw [if_neg htaken] at hrun
        cases hrun
        exact .accepted hvalidate htaken

theorem run_of_register {registry next : Registry} {case : ReferenceCase}
    (hnext : registry.register case = .ok next) :
    (submit case).run.run registry = (.ok (), next) := by
  unfold register at hnext
  split at hnext
  · next hrun =>
    cases hnext
    exact hrun
  · cases hnext

/-- A registry whose index gives the name of each case its place, and whose cases can be run. -/
structure Consistent (registry : Registry) : Prop where
  nodup_names : registry.names.Nodup
  valid : ∀ case ∈ registry.cases, case.signature.validate = .ok ()
  lookup_index (name : String) (i : Nat) :
    registry.index.lookup name = some i ↔ registry.names[i]? = some name

namespace Consistent

variable {registry next : Registry} {case : ReferenceCase} {outcome : Except CorpusError Unit}
  {name : String}

theorem empty : Registry.empty.Consistent where
  nodup_names := List.nodup_nil
  valid := List.forall_mem_nil _
  lookup_index _ _ := by simp [Registry.empty, names]

theorem isSome_lookup_iff (hconsistent : registry.Consistent) :
    (registry.index.lookup name).isSome ↔ name ∈ registry.names := by
  rw [Option.isSome_iff_exists, List.mem_iff_getElem?]
  exact exists_congr fun i => hconsistent.lookup_index name i

theorem added (hconsistent : registry.Consistent) (hvalid : case.signature.validate = .ok ())
    (hfree : case.name ∉ registry.names) : (registry.added case).Consistent where
  nodup_names := by
    rw [names_added, ← List.concat_eq_append]
    exact hconsistent.nodup_names.concat hfree
  valid := List.forall_mem_append.2 ⟨hconsistent.valid, List.forall_mem_singleton.2 hvalid⟩
  lookup_index name i := by
    rw [getElem?_names_added, ← hconsistent.lookup_index, Registry.added]
    by_cases hname : name = case.name
    · subst hname
      have hnone : registry.index.lookup case.name = none := by
        rw [← Option.not_isSome_iff_eq_none, hconsistent.isSome_lookup_iff]
        exact hfree
      simp [hnone, eq_comm]
    · simp [List.lookup_cons, beq_false_of_ne hname, Ne.symm hname]

theorem submitted (hconsistent : registry.Consistent)
    (hsubmitted : Submitted registry case outcome next) : next.Consistent := by
  cases hsubmitted with
  | invalid => exact hconsistent
  | taken => exact hconsistent
  | accepted hvalid hfree =>
      rw [hconsistent.isSome_lookup_iff] at hfree
      exact hconsistent.added hvalid hfree

/-- A call is refused for one of two reasons and then changes nothing. -/
theorem call (hconsistent : registry.Consistent)
    (hsubmitted : Submitted registry case outcome next) :
    (∀ fault, case.signature.validate = .error fault →
      outcome = .error (.invalidSignature case.name fault)) ∧
    (case.signature.validate = .ok () →
      (outcome = .error (.duplicateName case.name) ↔ case.name ∈ registry.names)) ∧
    (outcome = .ok () ↔ case.signature.validate = .ok () ∧ case.name ∉ registry.names) ∧
    (∀ fault, outcome = .error fault → next = registry) ∧
    (outcome = .ok () → next.cases = registry.cases ++ [case]) := by
  cases hsubmitted with
  | invalid hinvalid => simp [hinvalid]
  | taken hvalid htaken =>
      rw [hconsistent.isSome_lookup_iff] at htaken
      simp [hvalid, htaken]
  | accepted hvalid hfree =>
      rw [hconsistent.isSome_lookup_iff] at hfree
      simp [hvalid, hfree]

theorem get?_eq_some_iff (hconsistent : registry.Consistent) :
    registry.get? name = some case ↔ case ∈ registry.cases ∧ case.name = name := by
  rw [get?, Option.bind_eq_some_iff]
  constructor
  · rintro ⟨i, hlookup, hcase⟩
    rw [hconsistent.lookup_index, names, List.getElem?_map, hcase] at hlookup
    exact ⟨List.mem_of_getElem? hcase, Option.some.inj hlookup⟩
  · rintro ⟨hmem, rfl⟩
    obtain ⟨i, hcase⟩ := List.mem_iff_getElem?.1 hmem
    refine ⟨i, (hconsistent.lookup_index _ _).2 ?_, hcase⟩
    rw [names, List.getElem?_map, hcase]
    rfl

theorem get?_eq_none_iff (hconsistent : registry.Consistent) :
    registry.get? name = none ↔ name ∉ registry.names := by
  rw [Option.eq_none_iff_forall_ne_some, names, List.mem_map, not_exists]
  exact forall_congr' fun case => not_congr hconsistent.get?_eq_some_iff

end Consistent

theorem sum_categoryCounts (registry : Registry) :
    (registry.categoryCounts.map (·.2)).sum = registry.cases.length := by
  have hkeys : ∀ case ∈ registry.cases, case.category ∈ Category.all :=
    fun case _ => case.category.mem_all
  have hsum := sum_countP_key Category.nodup_all ReferenceCase.category (fun _ => true) hkeys
  simp only [List.countP_true, ← List.countP_eq_length_filter] at hsum
  rw [categoryCounts, ← hsum]
  -- A category without cases is left out, and would have counted nothing.
  generalize Category.all = categories
  induction categories with
  | nil => rfl
  | cons c categories ih =>
      rw [List.filterMap_cons, List.map_cons, List.sum_cons, ← ih]
      cases registry.cases.countP (·.category == c) with
      | zero => exact (Nat.zero_add _).symm
      | succ n => rfl

/-- One call after another, whatever becomes of each: what they came to, in order. -/
def submitAll (calls : List ReferenceCase) : StateM Registry (List (Except CorpusError Unit)) :=
  calls.mapM fun case => (submit case).run

/-- The cases of the calls that were not refused. -/
def accepted (calls : List ReferenceCase) (outcomes : List (Except CorpusError Unit)) :
    List ReferenceCase :=
  (calls.zip outcomes).filterMap fun (case, outcome) =>
    match outcome with
    | .ok () => some case
    | .error _ => none

theorem submitAll_cons_run (case : ReferenceCase) (calls : List ReferenceCase)
    (registry : Registry) : (submitAll (case :: calls)).run registry =
      let (outcome, reached) := (submit case).run.run registry
      let (outcomes, next) := (submitAll calls).run reached
      (outcome :: outcomes, next) := by
  rw [submitAll, List.mapM_cons]
  rfl

theorem submitAll_append_run (before after : List ReferenceCase) (registry : Registry) :
    (submitAll (before ++ after)).run registry =
      let (outcomes, reached) := (submitAll before).run registry
      let (further, next) := (submitAll after).run reached
      (outcomes ++ further, next) := by
  induction before generalizing registry with
  | nil => rfl
  | cons case before ih =>
      rw [List.cons_append, submitAll_cons_run, submitAll_cons_run]
      simp only [ih]
      rfl

theorem Consistent.of_submitAll {calls : List ReferenceCase} {registry next : Registry}
    {outcomes : List (Except CorpusError Unit)} (hconsistent : registry.Consistent)
    (hrun : (submitAll calls).run registry = (outcomes, next)) :
    next.Consistent ∧ outcomes.length = calls.length ∧
      next.cases = registry.cases ++ accepted calls outcomes := by
  induction calls generalizing registry outcomes with
  | nil =>
      cases hrun
      exact ⟨hconsistent, rfl, (List.append_nil _).symm⟩
  | cons case calls ih =>
      rw [submitAll_cons_run] at hrun
      rcases hcall : (submit case).run.run registry with ⟨outcome, reached⟩
      rcases hrest : (submitAll calls).run reached with ⟨further, last⟩
      simp only [hcall, hrest] at hrun
      cases hrun
      have hsubmitted := submitted_of_run hcall
      obtain ⟨hnext, hlength, hcases⟩ := ih (hconsistent.submitted hsubmitted) hrest
      refine ⟨hnext, congrArg Nat.succ hlength, ?_⟩
      cases hsubmitted with
      | invalid => exact hcases
      | taken => exact hcases
      | accepted =>
          rw [hcases, added_cases, List.append_assoc]
          rfl

/-- From an empty registry on, whatever is submitted: the cases are those accepted, in order, each
valid and found under a name of its own, and every case is counted in one category.  A call is
refused for a signature at fault, or else for a name that is taken; it then leaves the registry as
it was, with its index. -/
theorem submitAll_consistent (calls : List ReferenceCase) :
    let (outcomes, registry) := (submitAll calls).run .empty
    registry.names.Nodup ∧
    (∀ case ∈ registry.cases, case.signature.validate = .ok ()) ∧
    outcomes.length = calls.length ∧ registry.cases = accepted calls outcomes ∧
    (∀ name case, registry.get? name = some case ↔ case ∈ registry.cases ∧ case.name = name) ∧
    (∀ name, registry.get? name = none ↔ name ∉ registry.names) ∧
    (registry.categoryCounts.map (·.2)).sum = registry.cases.length ∧
    ∀ before case after, calls = before ++ case :: after →
      let reached := ((submitAll before).run .empty).2
      let (outcome, next) := (submit case).run.run reached
      outcomes[before.length]? = some outcome ∧
      (∀ fault, case.signature.validate = .error fault →
        outcome = .error (.invalidSignature case.name fault)) ∧
      (case.signature.validate = .ok () →
        (outcome = .error (.duplicateName case.name) ↔ case.name ∈ reached.names)) ∧
      (outcome = .ok () ↔ case.signature.validate = .ok () ∧ case.name ∉ reached.names) ∧
      (∀ fault, outcome = .error fault → next = reached) ∧
      (outcome = .ok () → next.cases = reached.cases ++ [case]) := by
  rcases hrun : (submitAll calls).run .empty with ⟨outcomes, registry⟩
  obtain ⟨hconsistent, hlength, hcases⟩ := Consistent.empty.of_submitAll hrun
  refine ⟨hconsistent.nodup_names, hconsistent.valid, hlength, hcases,
    fun _ _ => hconsistent.get?_eq_some_iff, fun _ => hconsistent.get?_eq_none_iff,
    registry.sum_categoryCounts, ?_⟩
  rintro before case after rfl
  rcases hbefore : (submitAll before).run .empty with ⟨earlier, reached⟩
  rcases hcall : (submit case).run.run reached with ⟨outcome, next⟩
  obtain ⟨hreached, hplace, _⟩ := Consistent.empty.of_submitAll hbefore
  simp only [submitAll_append_run, submitAll_cons_run, hbefore, hcall] at hrun
  cases hrun
  simp only [hcall]
  refine ⟨?_, hreached.call (submitted_of_run hcall)⟩
  rw [← hplace, List.getElem?_append_right (Nat.le_refl _), Nat.sub_self]
  rfl

namespace Refusals

/-- A case without parameters. -/
def case (name : String) : ReferenceCase :=
  ⟨⟨name, [], .void⟩, .arithmetic, [], name, []⟩

end Refusals

open Refusals in
/-- A name that is taken and one that is none, between two cases that are accepted. -/
theorem submitAll_consistent_refusals : ∃ registry,
    (submitAll [case "f", case "f", case "2", case "g"]).run .empty =
      ([.ok (), .error (.duplicateName "f"),
        .error (.invalidSignature "2" (.invalidName "2")), .ok ()], registry) ∧
      registry.cases = [case "f", case "g"] ∧ registry.get? "g" = some (case "g") ∧
      registry.get? "2" = none ∧ (registry.categoryCounts.map (·.2)).sum = 2 := by
  have hall := submitAll_consistent [case "f", case "f", case "2", case "g"]
  obtain ⟨_, _, _, hcases, hsome, hnone, hsum, _⟩ := hall
  have hmem : case "g" ∈ [case "f", case "g"] := List.mem_cons_of_mem _ List.mem_cons_self
  refine ⟨_, rfl, hcases, (hsome _ _).2 ⟨hmem, rfl⟩, (hnone _).2 ?_, hsum⟩
  decide

end Counterpart.Registry
