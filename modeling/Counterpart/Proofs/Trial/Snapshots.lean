/-
The snapshots of a complete execution.  Which objects they show, in which order, and what lay
there before the call is settled by the signature and the arguments alone, so executions of the
same arguments are compared position by position, whatever the processes printed.
-/
import Counterpart.Proofs.Comparison.Equivalence
import Counterpart.Proofs.Exchange.Decoding
import Counterpart.Proofs.Forall
import Counterpart.Proofs.Trial.Dependable

namespace Counterpart

/-- The bytes that lie behind a value; behind a string its zero byte is one of them. -/
inductive ArgValue.Behind : ArgValue → Bytes → Prop
  | buffer (elem : ScalarType) (content : Bytes) : Behind (.buffer elem content) content
  | cstring (content : Bytes) : Behind (.cstring content) (content ++ [0])
  | bytes (content : Bytes) : Behind (.bytes content) content

theorem ArgValue.pointee?_eq_some_iff {v : ArgValue} {passed : Bytes} :
    v.pointee? = some passed ↔ v.Behind passed := by
  constructor
  · intro hpassed
    cases v with
    | buffer elem _ =>
        cases hpassed
        exact .buffer elem passed
    | cstring content =>
        cases hpassed
        exact .cstring content
    | bytes _ =>
        cases hpassed
        exact .bytes passed
    | scalar _ | aggregate _ | null => cases hpassed
  · intro hbehind
    cases hbehind <;> rfl

namespace Exchange

/-- Behind a pointer that is encoded there is an object, unless it is null. -/
theorem ne_null_iff_of_argumentText {p : Param} {v : ArgValue} {text : List Char}
    (htext : argumentText p v = .ok text) (hpointer : p.ty.isPointer = true) :
    v ≠ .null ↔ ∃ passed, v.Behind passed := by
  constructor
  · intro hnull
    cases v with
    | buffer elem content => exact ⟨content, .buffer elem content⟩
    | cstring content => exact ⟨content ++ [0], .cstring content⟩
    | bytes content => exact ⟨content, .bytes content⟩
    | null => exact absurd rfl hnull
    | scalar _ | aggregate _ =>
        -- A pointer that is given such a value has no text.
        unfold argumentText at htext
        cases hty : p.ty <;> simp_all [ValueType.isPointer]
  · rintro ⟨passed, hbehind⟩
    cases hbehind <;> simp

theorem exists_argumentText_of_argumentsText {ps : List Param} {vs : List ArgValue}
    {text : List Char} (htext : argumentsText ps vs = .ok text) {i : Nat} {p : Param}
    {v : ArgValue} (hp : ps[i]? = some p) (hv : vs[i]? = some v) :
    ∃ group, argumentText p v = .ok group := by
  induction ps generalizing vs text i with
  | nil => cases hp
  | cons q ps ih =>
      rcases vs with _ | ⟨w, vs⟩
      · cases hv
      · obtain ⟨first, others, hfirst, hothers, _⟩ := argumentsText_cons_eq_ok htext
        rcases i with _ | i
        · cases hp
          cases hv
          exact ⟨first, hfirst⟩
        · exact ih hothers hp hv

end Exchange

namespace Snapshot

/-- The snapshot as it can be told before the call. -/
def atCall (s : Snapshot) : Snapshot := { s with after := [] }

/-- The object behind a parameter, if it is a mutable pointer that is passed one. -/
def object? (guard : Nat) (values : List ArgValue) (entry : Param × Nat) : Option Snapshot :=
  if entry.1.ty.isMutablePointer then
    ((values[entry.2]?).bind (·.pointee?)).map fun passed => ofBytes guard entry.2 entry.1 passed []
  else none

theorem object?_eq_some_iff {guard : Nat} {values : List ArgValue} {p : Param} {index : Nat}
    {s : Snapshot} : object? guard values (p, index) = some s ↔
      p.ty.isMutablePointer = true ∧ ∃ v passed, values[index]? = some v ∧ v.Behind passed ∧
        s = ofBytes guard index p passed [] := by
  rw [object?]
  by_cases hmutable : p.ty.isMutablePointer = true
  · simp only [hmutable, if_true, true_and, Option.map_eq_some_iff, Option.bind_eq_some_iff,
      ArgValue.pointee?_eq_some_iff]
    constructor
    · rintro ⟨passed, ⟨v, hv, hbehind⟩, rfl⟩
      exact ⟨v, passed, hv, hbehind, rfl⟩
    · rintro ⟨v, passed, hv, hbehind, rfl⟩
      exact ⟨passed, ⟨v, hv, hbehind⟩, rfl⟩
  · simp [hmutable]

/-- The snapshot with the bytes that are reported for it. -/
def withReport (memory : List (Nat × Bytes)) (s : Snapshot) : Except Fault Snapshot :=
  match reported? memory s.param with
  | none => .error (.garbled ("no memory report for '" ++ s.name ++ "'"))
  | some after => .ok { s with after := after }

theorem withReport_eq_ok_iff {memory : List (Nat × Bytes)} {s t : Snapshot} :
    withReport memory s = .ok t ↔
      ∃ after, reported? memory s.param = some after ∧ t = { s with after := after } := by
  unfold withReport
  cases reported? memory s.param with
  | none => simp
  | some after => simp [eq_comm]

theorem withReport_eq_error_iff {memory : List (Nat × Bytes)} {s : Snapshot} {fault : Fault} :
    withReport memory s = .error fault ↔ reported? memory s.param = none ∧
      fault = .garbled ("no memory report for '" ++ s.name ++ "'") := by
  unfold withReport
  cases reported? memory s.param with
  | none => simp [eq_comm]
  | some after => simp

/-- The snapshots are those of the objects, each with its report. -/
theorem collect_eq_mapM (guard : Nat) (values : List ArgValue) (memory : List (Nat × Bytes))
    (index : Nat) (params : List Param) :
    collect guard values memory index params =
      ((params.zipIdx index).filterMap (object? guard values)).mapM (withReport memory) := by
  induction params generalizing index with
  | nil => rfl
  | cons p ps ih =>
      rw [List.zipIdx_cons, List.filterMap_cons, collect, object?, ih]
      by_cases hmutable : p.ty.isMutablePointer = true
      · rcases (values[index]?).bind (·.pointee?) with _ | passed
        · simp [hmutable]
        · have hparam : (ofBytes guard index p passed []).param = index := rfl
          simp only [hmutable, Bool.not_true, Bool.false_eq_true, if_false, if_true,
            Option.map_some, List.mapM_cons, withReport, hparam]
          rcases reported? memory index with _ | after
          · rfl
          · rfl
      · simp [hmutable]

/-- What the process printed decides nothing but the bytes after the call. -/
theorem map_atCall_collect {guard : Nat} {values : List ArgValue} {memory : List (Nat × Bytes)}
    {index : Nat} {params : List Param} {snapshots : List Snapshot}
    (hcollect : collect guard values memory index params = .ok snapshots) :
    snapshots.map atCall = (params.zipIdx index).filterMap (object? guard values) := by
  rw [collect_eq_mapM, mapM_eq_ok_iff] at hcollect
  have hobjects : ∀ o ∈ (params.zipIdx index).filterMap (object? guard values), o.atCall = o := by
    intro o ho
    obtain ⟨⟨p, i⟩, _, hobject⟩ := List.mem_filterMap.1 ho
    obtain ⟨_, _, _, _, _, rfl⟩ := object?_eq_some_iff.1 hobject
    rfl
  have hall := (List.forall₂_and_left _ _).2 ⟨hobjects, hcollect⟩
  rw [map_eq_of_forall₂ hall, List.map_id']
  rintro o s ⟨ho, hreport⟩
  obtain ⟨after, _, rfl⟩ := withReport_eq_ok_iff.1 hreport
  exact ho

/-- The bytes after the call are those of the first report for the parameter. -/
theorem reported_of_collect {guard : Nat} {values : List ArgValue} {memory : List (Nat × Bytes)}
    {index : Nat} {params : List Param} {snapshots : List Snapshot}
    (hcollect : collect guard values memory index params = .ok snapshots) {s : Snapshot}
    (hs : s ∈ snapshots) : reported? memory s.param = some s.after := by
  rw [collect_eq_mapM, mapM_eq_ok_iff] at hcollect
  obtain ⟨o, _, hreport⟩ := exists_mem_of_forall₂ hcollect hs
  obtain ⟨after, hreported, rfl⟩ := withReport_eq_ok_iff.1 hreport
  exact hreported

/-- The snapshots cannot be taken where there is no report for an object. -/
theorem exists_unreported_of_collect {guard : Nat} {values : List ArgValue}
    {memory : List (Nat × Bytes)} {index : Nat} {params : List Param} {fault : Fault}
    (hcollect : collect guard values memory index params = .error fault) :
    ∃ o ∈ (params.zipIdx index).filterMap (object? guard values),
      reported? memory o.param = none ∧
        fault = .garbled ("no memory report for '" ++ o.name ++ "'") := by
  rw [collect_eq_mapM] at hcollect
  obtain ⟨o, ho, hreport⟩ := exists_error_of_mapM hcollect
  exact ⟨o, ho, withReport_eq_error_iff.1 hreport⟩

theorem isSome_reported?_iff {memory : List (Nat × Bytes)} {index : Nat} :
    (reported? memory index).isSome = true ↔ ∃ content, (index, content) ∈ memory := by
  rw [reported?, Option.isSome_map, List.find?_isSome]
  constructor
  · rintro ⟨⟨i, content⟩, hmem, hindex⟩
    rw [← eq_of_beq hindex]
    exact ⟨content, hmem⟩
  · rintro ⟨content, hmem⟩
    exact ⟨(index, content), hmem, beq_self_eq_true index⟩

theorem object?_param {guard : Nat} {values : List ArgValue} {entry : Param × Nat} {o : Snapshot}
    (hobject : object? guard values entry = some o) : o.param = entry.2 := by
  obtain ⟨p, i⟩ := entry
  obtain ⟨_, _, _, _, _, rfl⟩ := object?_eq_some_iff.1 hobject
  rfl

/-- Nothing but the memory behind a mutable pointer that is passed an object can be missing. -/
theorem exists_collect_iff {guard : Nat} {values : List ArgValue} {memory : List (Nat × Bytes)}
    {index : Nat} {params : List Param} :
    (∃ snapshots, collect guard values memory index params = .ok snapshots) ↔
      ∀ entry ∈ params.zipIdx index, (object? guard values entry).isSome = true →
        (reported? memory entry.2).isSome = true := by
  simp only [Option.isSome_iff_exists]
  constructor
  · rintro ⟨snapshots, hcollect⟩ entry hentry ⟨o, hobject⟩
    rw [collect_eq_mapM, mapM_eq_ok_iff] at hcollect
    obtain ⟨i, hi⟩ := List.mem_iff_getElem?.1 (List.mem_filterMap.2 ⟨entry, hentry, hobject⟩)
    obtain ⟨s, _, hreport⟩ := exists_getElem?_of_forall₂ hcollect hi
    obtain ⟨after, hreported, _⟩ := withReport_eq_ok_iff.1 hreport
    exact ⟨after, object?_param hobject ▸ hreported⟩
  · intro hall
    cases hcollect : collect guard values memory index params with
    | ok snapshots => exact ⟨snapshots, rfl⟩
    | error fault =>
        obtain ⟨o, ho, hnone, _⟩ := exists_unreported_of_collect hcollect
        obtain ⟨entry, hentry, hobject⟩ := List.mem_filterMap.1 ho
        obtain ⟨after, hreported⟩ := hall entry hentry ⟨o, hobject⟩
        rw [object?_param hobject, hreported] at hnone
        cases hnone

theorem pairwise_snd_zipIdx (params : List Param) (start : Nat) :
    (params.zipIdx start).Pairwise fun first second => first.2 < second.2 := by
  rw [← List.pairwise_map (f := Prod.snd) (R := (· < ·)), List.zipIdx_map_snd]
  exact List.pairwise_lt_range'

variable {guard : Nat} {sig : Signature} {values : List ArgValue} {snapshots : List Snapshot}

/-- The snapshots of a call show, in the order of the parameters, every object that is passed
behind a mutable pointer, with the guard behind its bytes. -/
structure Shown (guard : Nat) (sig : Signature) (values : List ArgValue)
    (snapshots : List Snapshot) : Prop where
  ascending : (snapshots.map (·.param)).Pairwise (· < ·)
  passed_iff : ∀ index, index ∈ snapshots.map (·.param) ↔ ∃ p v passed,
    sig.params[index]? = some p ∧ p.ty.isMutablePointer = true ∧ values[index]? = some v ∧
      v.Behind passed
  /-- Of the arguments of a call, which are encoded, all but the null pointers are objects. -/
  notNull_iff : ∀ input, Exchange.encode sig values = .ok input → ∀ index,
    index ∈ snapshots.map (·.param) ↔ ∃ p v, sig.params[index]? = some p ∧
      p.ty.isMutablePointer = true ∧ values[index]? = some v ∧ v ≠ .null
  object : ∀ s ∈ snapshots, ∃ p v passed, sig.params[s.param]? = some p ∧
    values[s.param]? = some v ∧ v.Behind passed ∧ s.name = p.name ∧ s.ignore = p.ignore ∧
    s.logicalLen = passed.length ∧ s.before = passed ++ List.replicate guard 0xa5

theorem mem_params_iff {memory : List (Nat × Bytes)}
    (hcollect : collect guard values memory 0 sig.params = .ok snapshots) (index : Nat) :
    index ∈ snapshots.map (·.param) ↔ ∃ p v passed, sig.params[index]? = some p ∧
      p.ty.isMutablePointer = true ∧ values[index]? = some v ∧ v.Behind passed := by
  have hmap : snapshots.map (·.param) = (snapshots.map atCall).map (·.param) := by
    rw [List.map_map]
    rfl
  rw [hmap, map_atCall_collect hcollect, List.mem_map]
  constructor
  · rintro ⟨s, hs, rfl⟩
    obtain ⟨⟨p, i⟩, hentry, hobject⟩ := List.mem_filterMap.1 hs
    obtain ⟨hmutable, v, passed, hv, hbehind, rfl⟩ := object?_eq_some_iff.1 hobject
    exact ⟨p, v, passed, List.mem_zipIdx_iff_getElem?.1 hentry, hmutable, hv, hbehind⟩
  · rintro ⟨p, v, passed, hp, hmutable, hv, hbehind⟩
    refine ⟨ofBytes guard index p passed [], List.mem_filterMap.2 ⟨(p, index), ?_, ?_⟩, rfl⟩
    · exact List.mem_zipIdx_iff_getElem?.2 hp
    · exact object?_eq_some_iff.2 ⟨hmutable, v, passed, hv, hbehind, rfl⟩

/-- A null pointer is no object, and every other argument of a mutable pointer is one. -/
theorem notNull_iff_of_encode {input : List Char} (hinput : Exchange.encode sig values = .ok input)
    {index : Nat} {p : Param} {v : ArgValue} (hp : sig.params[index]? = some p)
    (hmutable : p.ty.isMutablePointer = true) (hv : values[index]? = some v) :
    v ≠ .null ↔ ∃ passed, v.Behind passed := by
  obtain ⟨_, groups, hgroups, _⟩ := Exchange.encode_eq_ok hinput
  obtain ⟨group, hgroup⟩ := Exchange.exists_argumentText_of_argumentsText hgroups hp hv
  have hpointer : p.ty.isPointer = true := (Bool.and_eq_true_iff.1 hmutable).1
  exact Exchange.ne_null_iff_of_argumentText hgroup hpointer

theorem shown_of_collect {memory : List (Nat × Bytes)}
    (hcollect : collect guard values memory 0 sig.params = .ok snapshots) :
    Shown guard sig values snapshots where
  ascending := by
    have hordered : (snapshots.map atCall).Pairwise fun a b => a.param < b.param := by
      rw [map_atCall_collect hcollect, List.pairwise_filterMap]
      refine (pairwise_snd_zipIdx sig.params 0).imp ?_
      rintro ⟨p, i⟩ ⟨q, j⟩ hlt a ha b hb
      obtain ⟨_, _, _, _, _, rfl⟩ := object?_eq_some_iff.1 ha
      obtain ⟨_, _, _, _, _, rfl⟩ := object?_eq_some_iff.1 hb
      exact hlt
    rw [List.pairwise_map] at hordered ⊢
    exact hordered
  passed_iff := mem_params_iff hcollect
  notNull_iff := by
    intro input hinput index
    rw [mem_params_iff hcollect]
    constructor
    · rintro ⟨p, v, passed, hp, hmutable, hv, hbehind⟩
      exact ⟨p, v, hp, hmutable, hv,
        (notNull_iff_of_encode hinput hp hmutable hv).2 ⟨passed, hbehind⟩⟩
    · rintro ⟨p, v, hp, hmutable, hv, hnull⟩
      obtain ⟨passed, hbehind⟩ := (notNull_iff_of_encode hinput hp hmutable hv).1 hnull
      exact ⟨p, v, passed, hp, hmutable, hv, hbehind⟩
  object := by
    intro s hs
    have hmem : s.atCall ∈ (sig.params.zipIdx 0).filterMap (object? guard values) := by
      rw [← map_atCall_collect hcollect]
      exact List.mem_map_of_mem hs
    obtain ⟨⟨p, i⟩, hentry, hobject⟩ := List.mem_filterMap.1 hmem
    obtain ⟨_, v, passed, hv, hbehind, hs⟩ := object?_eq_some_iff.1 hobject
    have hparam : s.param = i := congrArg Snapshot.param hs
    rw [hparam]
    exact ⟨p, v, passed, List.mem_zipIdx_iff_getElem?.1 hentry, hv, hbehind,
      congrArg Snapshot.name hs, congrArg Snapshot.ignore hs, congrArg Snapshot.logicalLen hs,
      congrArg Snapshot.before hs⟩

/-- Two snapshots of one object, which may have been written to in different ways. -/
structure SameObject (a b : Snapshot) : Prop where
  param_eq : a.param = b.param
  name_eq : a.name = b.name
  logicalLen_eq : a.logicalLen = b.logicalLen
  before_eq : a.before = b.before
  ignore_eq : a.ignore = b.ignore

theorem sameObject_of_atCall_eq {a b : Snapshot} (heq : a.atCall = b.atCall) :
    a.SameObject b := by
  obtain ⟨hparam, hname, hlogicalLen, hbefore, _, hignore⟩ := Snapshot.mk.inj heq
  exact ⟨hparam, hname, hlogicalLen, hbefore, hignore⟩

theorem forall₂_sameObject {memory memory' : List (Nat × Bytes)} {params : List Param}
    {snapshots' : List Snapshot}
    (hcollect : collect guard values memory 0 params = .ok snapshots)
    (hcollect' : collect guard values memory' 0 params = .ok snapshots') :
    List.Forall₂ SameObject snapshots snapshots' := by
  have hmap : snapshots.map atCall = snapshots'.map atCall :=
    (map_atCall_collect hcollect).trans (map_atCall_collect hcollect').symm
  have hall : List.Forall₂ (· = ·) (snapshots.map atCall) (snapshots'.map atCall) := by
    rw [hmap]
    exact List.forall₂_refl _
  rw [List.forall₂_map_left_iff, List.forall₂_map_right_iff] at hall
  exact hall.imp fun a b => sameObject_of_atCall_eq

end Snapshot

namespace Execution

variable {sig : Signature} {guard : Nat} {values : List ArgValue} {ret : ReturnValue}
  {snapshots : List Snapshot}

/-- The snapshots of a complete execution are read from some list of reported bytes. -/
theorem exists_collect_of_ofOutcome {outcome : Outcome}
    (hshown : ofOutcome sig guard values outcome = .ok (.completed ret snapshots)) :
    ∃ memory, Snapshot.collect guard values memory 0 sig.params = .ok snapshots := by
  unfold ofOutcome at hshown
  split at hshown
  · cases hshown
  · cases hshown
  · next report _ =>
      split at hshown
      · cases hshown
      · cases hshown
      · next code _ =>
          rw [Except.ok.injEq, ofReport] at hshown
          split at hshown
          · split at hshown
            · next hcollect =>
                cases hshown
                exact ⟨report.memory, hcollect⟩
            · cases hshown
          · cases hshown

theorem exists_collect_of_gives {σ : Type} {bench : Bench σ} {config : Config}
    {program : String} {input : List Char} {s t : σ}
    (hgives : Gives (Trial.execute bench config sig program values input) s
      (.completed ret snapshots) t) :
    ∃ memory, Snapshot.collect config.guardBytes values memory 0 sig.params = .ok snapshots := by
  obtain ⟨outcome, t', _, hshown⟩ := gives_bind_iff.1 hgives
  exact exists_collect_of_ofOutcome (congrArg Prod.fst hshown)

end Execution

theorem Snapshot.sameMasks_of_sameObject {snapshots snapshots' : List Snapshot}
    (hall : List.Forall₂ Snapshot.SameObject snapshots snapshots') :
    Comparison.SameMasks snapshots snapshots' := by
  intro position a b ha hb
  obtain ⟨b', hb', hsame⟩ := exists_getElem?_of_forall₂ hall ha
  cases hb.symm.trans hb'
  exact ⟨hsame.logicalLen_eq, hsame.ignore_eq⟩

/-- What a trial compares observes the same bytes on both sides. -/
theorem Trial.aligned_of_gives_run {σ : Type} {bench : Bench σ} {config : Config}
    {prepared : Prepared} {values : List ArgValue} {s t : σ} {pair : ExecutionPair}
    (hgives : Gives (Trial.run bench config prepared values) s pair t) :
    pair.original.Aligned pair.decompiled := by
  obtain ⟨input, _, _, hrest⟩ := gives_bind_iff.1 hgives
  obtain ⟨original, _, horiginal, hrest⟩ := gives_bind_iff.1 hrest
  obtain ⟨decompiled, _, hdecompiled, hpure⟩ := gives_bind_iff.1 hrest
  cases hpure
  rcases original with ⟨ret, snapshots⟩ | fault
  · rcases decompiled with ⟨ret', snapshots'⟩ | fault
    · obtain ⟨memory, hcollect⟩ := Execution.exists_collect_of_gives horiginal
      obtain ⟨memory', hcollect'⟩ := Execution.exists_collect_of_gives hdecompiled
      exact Snapshot.sameMasks_of_sameObject (Snapshot.forall₂_sameObject hcollect hcollect')
    · trivial
  · trivial

/-- Two complete executions on the same arguments have snapshots of the same objects in the same
order, whatever the two processes printed: those behind the mutable pointers that are not null,
each with its bytes before the call and the guard behind them. -/
theorem execute_shows_same_objects {σ τ : Type} {bench : Bench σ} {bench' : Bench τ}
    {config : Config} {sig : Signature} {program program' : String} {values : List ArgValue}
    {input input' : List Char} {s t : σ} {s' t' : τ} {ret ret' : ReturnValue}
    {snapshots snapshots' : List Snapshot}
    (horiginal : Gives (Trial.execute bench config sig program values input) s
      (.completed ret snapshots) t)
    (hdecompiled : Gives (Trial.execute bench' config sig program' values input') s'
      (.completed ret' snapshots') t') :
    List.Forall₂ Snapshot.SameObject snapshots snapshots' ∧
      Snapshot.Shown config.guardBytes sig values snapshots ∧
      Snapshot.Shown config.guardBytes sig values snapshots' := by
  obtain ⟨memory, hcollect⟩ := Execution.exists_collect_of_gives horiginal
  obtain ⟨memory', hcollect'⟩ := Execution.exists_collect_of_gives hdecompiled
  exact ⟨Snapshot.forall₂_sameObject hcollect hcollect', Snapshot.shown_of_collect hcollect,
    Snapshot.shown_of_collect hcollect'⟩

namespace Reordered

/-- Two objects are passed to be written, one pointer is null, and one object is only read. -/
def sig : Signature :=
  { name := "f"
    params := [⟨"out", .bytes 2 true, none, false, [⟨1, 1⟩]⟩,
      ⟨"none", .bytes 8 true, none, true, []⟩,
      ⟨"text", .cstring true, none, false, []⟩, ⟨"key", .bytes 1 false, none, false, []⟩]
    ret := .void }

def values : List ArgValue := [.bytes [1, 2], .null, .cstring [0x68], .bytes [9]]

/-- What a process prints that has ended when it is first looked at. -/
def process (printed : String) (status : ExitStatus) : Process :=
  ⟨[Text.utf8 printed.toList], fun _ => .ok (some status), fun _ => 0⟩

/-- A program that prints the same whatever it is given. -/
def bench (printed : String) : Bench Unit where
  probe := pure (.ok "cc")
  openWorkdir := pure (.ok "")
  closeWorkdir := fun _ => pure ()
  canonical := fun _ => pure none
  write := fun _ _ => pure (.ok ())
  compile := fun _ => pure (.ok ())
  link := fun _ => pure (.ok ())
  start := fun _ _ _ => pure (.ok (process printed (.code 0)))

/-- A short output is kept as it is. -/
theorem supervise_process {printed : String}
    (hshort : (Text.utf8 printed.toList).length ≤ Process.captureLimit) (status : ExitStatus)
    (timeout : Nat) : (process printed status).supervise timeout =
      .ok ⟨.ofStatus status, Text.utf8 printed.toList⟩ := by
  have hdecides : (process printed status).Decides timeout 0 (.ofStatus status) := .ended rfl
  have hprinted : (process printed status).printed = Text.utf8 printed.toList :=
    List.flatten_singleton
  rw [hdecides.supervise_eq, hprinted, List.take_of_length_le hshort]

theorem run_launch {printed : String}
    (hshort : (Text.utf8 printed.toList).length ≤ Process.captureLimit) {program : String}
    {input : Bytes} {limits : Limits} : ((bench printed).launch program input limits).run () =
      (.ok ⟨.exited 0, Text.utf8 printed.toList⟩, ()) :=
  congrArg (·, ()) (supervise_process hshort (.code 0) limits.timeoutNanos)

def config : Config := { Config.default ⟨fun _ => none, 1⟩ with guardBytes := 1 }

def ordered : String := "@@EQ RET V\n@@EQ MEM 0 3 0302a5\n@@EQ MEM 2 3 6800a5\n@@EQ END\n"

/-- The reports come in another order, one of them twice, with a line of the program between. -/
def reordered : String :=
  "@@EQ MEM 2 1 00\nhello\n@@EQ MEM 0 3 0105a5\n@@EQ MEM 2 0\n@@EQ RET V\n@@EQ END\n"

def snapshots (out text : Bytes) : List Snapshot :=
  [⟨0, "out", 2, [1, 2, 0xa5], out, [⟨1, 1⟩]⟩, ⟨2, "text", 2, [0x68, 0, 0xa5], text, []⟩]

theorem shown_ordered : Execution.ofOutcome sig 1 values ⟨.exited 0, Text.utf8 ordered.toList⟩ =
    .ok (.completed .void (snapshots [3, 2, 0xa5] [0x68, 0, 0xa5])) := by
  decide +kernel

theorem shown_reordered :
    Execution.ofOutcome sig 1 values ⟨.exited 0, Text.utf8 reordered.toList⟩ =
      .ok (.completed .void (snapshots [1, 5, 0xa5] [0])) := by
  decide +kernel

end Reordered

open Reordered in
theorem execute_shows_same_objects_reordered :
    Gives (Trial.execute (bench ordered) config sig "original" values []) ()
        (.completed .void (snapshots [3, 2, 0xa5] [0x68, 0, 0xa5])) () ∧
      Gives (Trial.execute (bench reordered) config sig "decompiled" values []) ()
        (.completed .void (snapshots [1, 5, 0xa5] [0])) () ∧
      List.Forall₂ Snapshot.SameObject (snapshots [3, 2, 0xa5] [0x68, 0, 0xa5])
        (snapshots [1, 5, 0xa5] [0]) ∧
      Snapshot.Shown 1 sig values (snapshots [3, 2, 0xa5] [0x68, 0, 0xa5]) := by
  have horiginal : Gives (Trial.execute (bench ordered) config sig "original" values []) ()
      (.completed .void (snapshots [3, 2, 0xa5] [0x68, 0, 0xa5])) () :=
    Trial.gives_execute (run_launch (by decide +kernel)) shown_ordered
  have hdecompiled : Gives (Trial.execute (bench reordered) config sig "decompiled" values []) ()
      (.completed .void (snapshots [1, 5, 0xa5] [0])) () :=
    Trial.gives_execute (run_launch (by decide +kernel)) shown_reordered
  obtain ⟨hsame, hshown, _⟩ := execute_shows_same_objects horiginal hdecompiled
  exact ⟨horiginal, hdecompiled, hsame, hshown⟩

end Counterpart
